import StrategyHost.Json.Decoder
import StrategyHost.Proofs.Json.Sorting
import StrategyHost.Proofs.Json.Writing

/-! # Documents read back

The text of a value is read into the document `docOf` of the value (`readText_compact`), in which a double stands for what
it is read back as (`reread`). -/

namespace StrategyHost.Json

/-! ### Values -/

mutual

/-- Whether the numbers of a value are whole numbers of 64 bits and finite doubles. -/
def IsValue : Json → Prop
  | .int n => -2 ^ 63 ≤ n ∧ n < 2 ^ 64
  | .float x => Double.isFinite x = true
  | .arr xs => ItemsAreValues xs
  | .obj fs => FieldsAreValues fs
  | _ => True

def ItemsAreValues : List Json → Prop
  | [] => True
  | x :: xs => x.IsValue ∧ ItemsAreValues xs

def FieldsAreValues : List (String × Json) → Prop
  | [] => True
  | (_, v) :: fs => v.IsValue ∧ FieldsAreValues fs

end

mutual

theorem IsValue.isFinite : ∀ {v : Json}, v.IsValue → v.isFinite = true
  | .null, _ | .bool _, _ | .int _, _ | .str _, _ => rfl
  | .float _, h => h
  | .arr _, h => ItemsAreValues.itemsFinite h
  | .obj _, h => FieldsAreValues.fieldsFinite h

theorem ItemsAreValues.itemsFinite : ∀ {xs : List Json}, ItemsAreValues xs → itemsFinite xs = true
  | [], _ => rfl
  | _ :: _, h => Bool.and_eq_true_iff.2 ⟨h.1.isFinite, ItemsAreValues.itemsFinite h.2⟩

theorem FieldsAreValues.fieldsFinite : ∀ {fs : List (String × Json)}, FieldsAreValues fs → fieldsFinite fs = true
  | [], _ => rfl
  | (_, _) :: _, h => Bool.and_eq_true_iff.2 ⟨h.1.isFinite, FieldsAreValues.fieldsFinite h.2⟩

end

mutual

def depth : Json → ℕ
  | .arr xs => itemsDepth xs + 1
  | .obj fs => fieldsDepth fs + 1
  | _ => 0

def itemsDepth : List Json → ℕ
  | [] => 0
  | x :: xs => max x.depth (itemsDepth xs)

def fieldsDepth : List (String × Json) → ℕ
  | [] => 0
  | (_, v) :: fs => max v.depth (fieldsDepth fs)

end

mutual

def doubles : Json → List Float
  | .float x => [x]
  | .arr xs => itemsDoubles xs
  | .obj fs => fieldsDoubles fs
  | _ => []

def itemsDoubles : List Json → List Float
  | [] => []
  | x :: xs => x.doubles ++ itemsDoubles xs

def fieldsDoubles : List (String × Json) → List Float
  | [] => []
  | (_, v) :: fs => v.doubles ++ fieldsDoubles fs

end

/-- What a double is read as where it is written. -/
def reread (x : Float) : Option Float :=
  match readNumeral (spellFloat x) with
  | .ok (n, _) =>
    match n.value? with
    | some (.float y) => some y
    | _ => none
  | .error _ => none

mutual

/-- The document in the text of a value inside `level` containers. -/
def docOf (level : ℕ) : Json → Doc
  | .null => .null
  | .bool b => .bool b
  | .int n => .num (some (.int n))
  | .float x => .num ((reread x).map .float)
  | .str s => .str (some s)
  | .arr xs => .arr (level + 1) (docItems (level + 1) xs) none
  | .obj fs => .obj (level + 1) (docFields (level + 1) fs) none

def docItems (level : ℕ) : List Json → List Doc
  | [] => []
  | x :: xs => docOf level x :: docItems level xs

def docFields (level : ℕ) : List (String × Json) → List (Option String × Doc)
  | [] => []
  | (k, v) :: fs => (some k, docOf level v) :: docFields level fs

end

/-! ### Numbers -/

theorem absorbDigits_digits {ds : List Char} {acc : ℕ} (fits : Nat.ofDigitChars 10 ds acc < 2 ^ 64) :
    absorbDigits acc ds = (Nat.ofDigitChars 10 ds acc, []) := by
  induction ds generalizing acc with
  | nil => rfl
  | cons c ds ih =>
    have next : 10 * acc + (c.toNat - '0'.toNat) = acc * 10 + digitValue c := congrArg (· + _) (Nat.mul_comm ..)
    rw [Nat.ofDigitChars_cons, next] at fits ⊢
    have small : acc * 10 + digitValue c < 2 ^ 64 := lt_of_le_of_lt (le_ofDigitChars ds _) fits
    rw [absorbDigits, if_pos small, ih fits]

theorem value?_ofInt {n : ℤ} (low : -2 ^ 63 ≤ n) (high : n < 2 ^ 64) : (Numeral.ofInt n).value? = some (.int n) := by
  have digits : absorbDigits 0 (Double.digitsOf n.natAbs) = (n.natAbs, []) := by
    have fits : Nat.ofDigitChars 10 (Double.digitsOf n.natAbs) 0 < 2 ^ 64 := by rw [ofDigitChars_digitsOf]; omega
    rw [absorbDigits_digits fits, ofDigitChars_digitsOf]
  simp only [Numeral.ofInt, Numeral.value?, digits, List.isEmpty_nil, and_self, ↓reduceIte, decide_eq_true_eq]
  split_ifs with negative out
  · omega
  · rw [show -(n.natAbs : ℤ) = n by omega]
  · rw [show (n.natAbs : ℤ) = n by omega]

theorem exists_float_of_value? {n : Numeral} (notWhole : n.fraction ≠ [] ∨ n.exponent ≠ none) :
    ∃ y?, n.value? = Option.map Json.float y? := by
  obtain ⟨negative, whole, fraction, exponent⟩ := n
  cases exponent with
  | some e =>
    obtain ⟨below, ds⟩ := e
    simp only [Numeral.value?]
    cases exponentValue? ds with
    | some e => exact ⟨_, rfl⟩
    | none =>
      dsimp only
      split_ifs <;> first | exact ⟨none, rfl⟩ | exact ⟨some _, rfl⟩
  | none =>
    have point : fraction.isEmpty = false := by simpa using notWhole
    simp only [Numeral.value?, point, Bool.false_eq_true, false_and, ↓reduceIte]
    exact ⟨_, rfl⟩

theorem spellFloat_eq_text_reread {x : Float} (h : Double.isFinite x = true) :
    ∃ n : Numeral, spellFloat x = n.text ∧ n.IsPlain ∧ n.value? = (reread x).map .float := by
  obtain ⟨p, hp⟩ := Option.isSome_iff_exists.1 h
  obtain ⟨n, hn, spells⟩ := spellFloat_eq_text hp
  refine ⟨n, hn, spells.plain, ?_⟩
  have read := readNumeral_text spells.plain endsNumber_nil
  rw [List.append_nil] at read
  obtain ⟨y?, value⟩ := exists_float_of_value? spells.notWhole
  rw [reread, hn, read]
  simp only [value]
  cases y? <;> rfl

/-! ### Texts -/

theorem skipBlanks_solid {c : Char} {cs : List Char} (h : isBlank c = false) : skipBlanks (c :: cs) = c :: cs := by
  rw [skipBlanks, List.dropWhile_cons_of_neg (by simp [h])]

theorem skipBlanks_of_kind {c : Char} {cs : List Char} {k : Kind} (h : Kind.ofChar? c = some k) :
    skipBlanks (c :: cs) = c :: cs := by
  refine skipBlanks_solid (Bool.eq_false_of_not_eq_true fun blank => ?_)
  simp only [isBlank, Bool.or_eq_true, decide_eq_true_eq] at blank
  rcases blank with ((rfl | rfl) | rfl) | rfl <;> cases h

theorem skipBlanks_write {v : Json} (hv : v.isFinite = true) (r : List Char) : skipBlanks (write v r) = write v r := by
  obtain ⟨c, cs, hc, kind⟩ := head_write hv r
  rw [hc, skipBlanks_of_kind kind]

theorem Numeral.IsPlain.lt_length_text {n : Numeral} (plain : n.IsPlain) (r : List Char) :
    r.length < (n.text ++ r).length := by
  have some : n.text ≠ [] := by
    intro nothing
    obtain ⟨c, cs, hc, -⟩ := plain.head_text []
    rw [nothing] at hc
    cases hc
  rw [List.length_append]
  exact Nat.lt_add_of_pos_left (List.length_pos_of_ne_nil some)

theorem length_lt_writeString (s : String) (r : List Char) : r.length < (writeString s r).length := by
  have := length_le_writeChars s.toList ('"' :: r)
  simp only [List.length_cons] at this
  rw [writeString, List.length_cons]
  omega

mutual

theorem length_lt_write : ∀ {v : Json}, v.isFinite = true → ∀ r : List Char, r.length < (write v r).length
  | .null, _, r | .bool true, _, r | .bool false, _, r | .arr [], _, r | .obj [], _, r => by
    simp only [write, List.length_cons]
    omega
  | .int n, _, r => by
    rw [write, spellInt_eq]
    exact (isPlain_ofInt n).lt_length_text r
  | .float x, h, r => by
    obtain ⟨n, text, plain, -⟩ := spellFloat_eq_text_reread h
    rw [write, text]
    exact plain.lt_length_text r
  | .str s, _, r => length_lt_writeString s r
  | .arr (x :: xs), h, r => by
    simp only [isFinite, itemsFinite, Bool.and_eq_true] at h
    have first := length_lt_write h.1 (writeItems xs r)
    have rest := length_lt_writeItems h.2 r
    simp only [write, List.length_cons]
    omega
  | .obj ((k, v) :: fs), h, r => by
    simp only [isFinite, fieldsFinite, Bool.and_eq_true] at h
    have key := length_lt_writeString k (':' :: write v (writeFields fs r))
    have value := length_lt_write h.1 (writeFields fs r)
    have rest := length_lt_writeFields h.2 r
    simp only [write, List.length_cons] at key ⊢
    omega

theorem length_lt_writeItems : ∀ {xs : List Json}, itemsFinite xs = true → ∀ r : List Char,
    r.length < (writeItems xs r).length
  | [], _, r => by simp [writeItems]
  | x :: xs, h, r => by
    simp only [itemsFinite, Bool.and_eq_true] at h
    have first := length_lt_write h.1 (writeItems xs r)
    have rest := length_lt_writeItems h.2 r
    simp only [writeItems, List.length_cons]
    omega

theorem length_lt_writeFields : ∀ {fs : List (String × Json)}, fieldsFinite fs = true → ∀ r : List Char,
    r.length < (writeFields fs r).length
  | [], _, r => by simp [writeFields]
  | (k, v) :: fs, h, r => by
    simp only [fieldsFinite, Bool.and_eq_true] at h
    have key := length_lt_writeString k (':' :: write v (writeFields fs r))
    have value := length_lt_write h.1 (writeFields fs r)
    have rest := length_lt_writeFields h.2 r
    simp only [writeFields, List.length_cons] at key ⊢
    omega

end

theorem readScalar_number {c : Char} {cs : List Char} {n : Numeral} {r : List Char} (kind : Kind.ofChar? c = some .number)
    (h : readNumeral (c :: cs) = .ok (n, r)) : readScalar (c :: cs) = leaf (.num n.value?) r := by
  have digit : c = '-' ∨ isDigit c = true := by
    unfold Kind.ofChar? at kind
    split_ifs at kind <;> first | assumption | cases kind
  unfold readScalar
  split
  · rename_i heq
    cases heq
  · rename_i heq
    cases heq
    cases kind
  · rename_i heq
    cases heq
    cases kind
  · rename_i heq
    cases heq
    cases kind
  · rename_i heq
    cases heq
    cases kind
  · rename_i heq
    cases heq
    rw [if_pos digit, h]

theorem readScalar_write {v : Json} (hv : v.IsValue) (arr : v.kind ≠ .array) (obj : v.kind ≠ .object) (level : ℕ)
    {r : List Char} (hr : EndsNumber r) : readScalar (write v r) = leaf (docOf level v) r := by
  cases v with
  | null => rfl
  | bool b => cases b <;> rfl
  | int n =>
    obtain ⟨c, cs, hc, kind⟩ := head_write (v := .int n) rfl r
    have read := readNumeral_text (isPlain_ofInt n) hr
    rw [write, spellInt_eq] at hc ⊢
    rw [hc] at read ⊢
    rw [readScalar_number kind read, value?_ofInt hv.1 hv.2, docOf]
  | float x =>
    obtain ⟨c, cs, hc, kind⟩ := head_write (v := .float x) hv r
    obtain ⟨n, text, plain, value⟩ := spellFloat_eq_text_reread hv
    have read := readNumeral_text plain hr
    rw [write, text] at hc ⊢
    rw [hc] at read ⊢
    rw [readScalar_number kind read, value, docOf]
  | str s =>
    have read := readString_writeString s r
    rw [write, writeString, readScalar]
    rw [writeString] at read
    rw [read]
    rfl
  | arr xs => exact absurd rfl arr
  | obj fs => exact absurd rfl obj

theorem readValue_scalar {v : Json} (hv : v.IsValue) (arr : v.kind ≠ .array) (obj : v.kind ≠ .object) (fuel level : ℕ)
    {r : List Char} (hr : EndsNumber r) : readValue (fuel + 1) level (write v r) = leaf (docOf level v) r := by
  obtain ⟨c, cs, hc, kind⟩ := head_write hv.isFinite r
  rw [← readScalar_write hv arr obj level hr, readValue, skipBlanks_write hv.isFinite, hc]
  split
  · rename_i heq
    cases heq
    exact absurd (Option.some.inj kind).symm arr
  · rename_i heq
    cases heq
    exact absurd (Option.some.inj kind).symm obj
  · rfl

/-! ### Containers -/

section Steps
variable {fuel level : ℕ} {text rest : List Char} {d : Doc} {k : String}

theorem readValue_array (solid : skipBlanks text = text) (items : ∀ r, text ≠ ']' :: r) :
    readValue (fuel + 1) level ('[' :: text) = (.arr (level + 1) (readItems fuel (level + 1) text).1
      (readItems fuel (level + 1) text).2.1, (readItems fuel (level + 1) text).2.2) := by
  simp only [readValue, skipBlanks_of_kind (rfl : Kind.ofChar? '[' = some .array), solid]

theorem readValue_object (solid : skipBlanks text = text) (fields : ∀ r, text ≠ '}' :: r) :
    readValue (fuel + 1) level ('{' :: text) = (.obj (level + 1) (readFields fuel (level + 1) text).1
      (readFields fuel (level + 1) text).2.1, (readFields fuel (level + 1) text).2.2) := by
  simp only [readValue, skipBlanks_of_kind (rfl : Kind.ofChar? '{' = some .object), solid]

theorem readItems_close (value : readValue fuel level text = (d, some (']' :: rest))) :
    readItems (fuel + 1) level text = ([d], none, some rest) := by
  rw [readItems, value]
  rfl

theorem readItems_comma {more : List Char} (value : readValue fuel level text = (d, some (',' :: more)))
    (solid : skipBlanks more = more) (item : ∀ r, more ≠ ']' :: r) : readItems (fuel + 1) level text =
      (d :: (readItems fuel level more).1, (readItems fuel level more).2.1, (readItems fuel level more).2.2) := by
  simp only [readItems, value, skipBlanks_solid (rfl : isBlank ',' = false), solid]

variable {field : List Char} (key : readString (skipBlanks text) = .ok (some k, ':' :: field))
include key

theorem readFields_close (value : readValue fuel level field = (d, some ('}' :: rest))) :
    readFields (fuel + 1) level text = ([(some k, d)], none, some rest) := by
  simp only [readFields, key, skipBlanks_solid (rfl : isBlank ':' = false), value,
    skipBlanks_solid (rfl : isBlank '}' = false)]

theorem readFields_comma {more : List Char} (value : readValue fuel level field = (d, some (',' :: more))) :
    readFields (fuel + 1) level text = ((some k, d) :: (readFields fuel level (skipBlanks more)).1,
      (readFields fuel level (skipBlanks more)).2.1, (readFields fuel level (skipBlanks more)).2.2) := by
  simp only [readFields, key, skipBlanks_solid (rfl : isBlank ':' = false), value,
    skipBlanks_solid (rfl : isBlank ',' = false)]

end Steps

theorem skipBlanks_writeString (s : String) (r : List Char) : skipBlanks (writeString s r) = writeString s r := rfl

mutual

/-- The text of a value is read into its document, with fuel for each character. -/
theorem readValue_write : ∀ {v : Json}, v.IsValue → ∀ {fuel level : ℕ} {r : List Char}, EndsNumber r →
    (write v r).length ≤ fuel + r.length → readValue fuel level (write v r) = (docOf level v, some r)
  | v, hv, 0, level, r, hr, enough => by
    have := length_lt_write hv.isFinite r
    omega
  | .null, hv, fuel + 1, level, r, hr, _ => readValue_scalar hv nofun nofun fuel level hr
  | .bool _, hv, fuel + 1, level, r, hr, _ => readValue_scalar hv nofun nofun fuel level hr
  | .int _, hv, fuel + 1, level, r, hr, _ => readValue_scalar hv nofun nofun fuel level hr
  | .float _, hv, fuel + 1, level, r, hr, _ => readValue_scalar hv nofun nofun fuel level hr
  | .str _, hv, fuel + 1, level, r, hr, _ => readValue_scalar hv nofun nofun fuel level hr
  | .arr [], _, fuel + 1, level, r, _, _ => rfl
  | .arr (x :: xs), hv, fuel + 1, level, r, _, enough => by
    simp only [write, List.length_cons] at enough
    have finite := hv.1.isFinite
    rw [write, readValue_array (skipBlanks_write finite _) (write_ne_close finite _), readItems_write hv (by omega)]
    rfl
  | .obj [], _, fuel + 1, level, r, _, _ => rfl
  | .obj ((k, v) :: fs), hv, fuel + 1, level, r, _, enough => by
    simp only [write, List.length_cons] at enough
    rw [write, readValue_object (skipBlanks_writeString _ _) (by rintro r ⟨⟩), readFields_write hv (by omega)]
    rfl

theorem readItems_write : ∀ {x : Json} {xs : List Json}, ItemsAreValues (x :: xs) → ∀ {fuel level : ℕ} {r : List Char},
    (write x (writeItems xs r)).length ≤ fuel + r.length →
      readItems fuel level (write x (writeItems xs r)) = (docItems level (x :: xs), none, some r)
  | x, xs, h, 0, level, r, enough => by
    have first := length_lt_write h.1.isFinite (writeItems xs r)
    have rest := length_lt_writeItems (ItemsAreValues.itemsFinite h.2) r
    omega
  | x, xs, h, fuel + 1, level, r, enough => by
    have first := length_lt_write h.1.isFinite (writeItems xs r)
    have rest := length_lt_writeItems (ItemsAreValues.itemsFinite h.2) r
    have value : readValue fuel level (write x (writeItems xs r)) = (docOf level x, some (writeItems xs r)) :=
      readValue_write h.1 (endsNumber_writeItems xs r) (by omega)
    cases xs with
    | nil => exact readItems_close value
    | cons y ys =>
      have finite := h.2.1.isFinite
      have length : (writeItems (y :: ys) r).length = (write y (writeItems ys r)).length + 1 := rfl
      rw [readItems_comma value (skipBlanks_write finite _) (write_ne_close finite _), readItems_write h.2 (by omega)]
      rfl

theorem readFields_write : ∀ {k : String} {v : Json} {fs : List (String × Json)}, FieldsAreValues ((k, v) :: fs) →
    ∀ {fuel level : ℕ} {r : List Char}, (writeString k (':' :: write v (writeFields fs r))).length ≤ fuel + r.length →
      readFields fuel level (writeString k (':' :: write v (writeFields fs r))) =
        (docFields level ((k, v) :: fs), none, some r)
  | k, v, fs, h, 0, level, r, enough => by
    have key := length_lt_writeString k (':' :: write v (writeFields fs r))
    have first := length_lt_write h.1.isFinite (writeFields fs r)
    have rest := length_lt_writeFields (FieldsAreValues.fieldsFinite h.2) r
    simp only [List.length_cons] at key
    omega
  | k, v, fs, h, fuel + 1, level, r, enough => by
    have key := length_lt_writeString k (':' :: write v (writeFields fs r))
    have first := length_lt_write h.1.isFinite (writeFields fs r)
    have rest := length_lt_writeFields (FieldsAreValues.fieldsFinite h.2) r
    simp only [List.length_cons] at key
    have value : readValue fuel level (write v (writeFields fs r)) = (docOf level v, some (writeFields fs r)) :=
      readValue_write h.1 (endsNumber_writeFields fs r) (by omega)
    have name : readString (skipBlanks (writeString k (':' :: write v (writeFields fs r)))) =
        .ok (some k, ':' :: write v (writeFields fs r)) := readString_writeString ..
    rcases fs with _ | ⟨⟨l, w⟩, fs⟩
    · exact readFields_close name value
    · have length : (writeFields ((l, w) :: fs) r).length = (writeString l (':' :: write w (writeFields fs r))).length + 1 := rfl
      rw [readFields_comma name value, skipBlanks_writeString, readFields_write h.2 (by omega)]
      rfl

end

/-- The text of a value is read into its document, and nothing is left. -/
theorem readText_compact {v : Json} (hv : v.IsValue) : readText v.compact = (docOf 0 v, none) := by
  have read : readValue (2 * (write v []).length + 1) 0 (write v []) = (docOf 0 v, some []) :=
    readValue_write hv endsNumber_nil (by omega)
  simp only [readText, compact, String.toList_ofList, read]
  rfl

end StrategyHost.Json
