import StrategyHost.Proofs.Json.Numeral

/-! # Where the text of a document ends

A scan of a text keeps whether it is in a string and how many brackets are open (`Place`); the text of a value leaves that
number as it was (`scan_write`). Main statement: `nil_of_append_write_obj`, the text of an object whose first key begins with
a letter is not the end of the text of a longer one. -/

namespace StrategyHost.Json

/-- Whether a scan is outside of strings, in one, behind a backslash in one, or just behind one. -/
inductive Mode where
  | outside | inside | escaped | behind
deriving DecidableEq

/-- Where a scan is: how many brackets were opened and not closed, or behind the bracket that closes what the scan began
in. -/
inductive Place where
  | reading (mode : Mode) (depth : ℕ)
  | done
deriving DecidableEq

namespace Place

def close : ℕ → Place
  | 0 => done
  | k + 1 => .reading .outside k

def step : Place → Char → Option Place
  | .reading .outside k, c =>
    if c = '"' then some (.reading .inside k)
    else if c = '{' ∨ c = '[' then some (.reading .outside (k + 1))
    else if c = '}' ∨ c = ']' then some (close k)
    else some (.reading .outside k)
  | .reading .inside k, c =>
    if c = '"' then some (.reading .behind k) else if c = '\\' then some (.reading .escaped k) else some (.reading .inside k)
  | .reading .escaped k, c => if c ∈ ['"', '\\', 'n', 'r', 't', 'b', 'f', 'u'] then some (.reading .inside k) else none
  | .reading .behind k, c =>
    if c = '}' ∨ c = ']' then some (close k) else if c = ',' ∨ c = ':' then some (.reading .outside k) else none
  | .done, _ => none

def scan (p : Place) (text : List Char) : Option Place := text.foldlM step p

variable {p : Place} {k : ℕ}

theorem scan_nil : p.scan [] = some p := rfl

theorem scan_cons (c : Char) (cs : List Char) : p.scan (c :: cs) = (p.step c).bind (scan · cs) := by
  rw [scan, List.foldlM_cons]
  rfl

theorem scan_append (cs ds : List Char) : p.scan (cs ++ ds) = (p.scan cs).bind (scan · ds) := by
  rw [scan, List.foldlM_append]
  rfl

theorem scan_done {cs : List Char} {q : Place} (h : done.scan cs = some q) : cs = [] := by
  cases cs with
  | nil => rfl
  | cons c cs => rw [scan_cons] at h; cases h

end Place

open Place

/-! ### Strings -/

theorem step_hexDigit (k n : ℕ) : (Place.reading .inside k).step (hexDigit n) = some (.reading .inside k) := by
  have plain : ∀ m < 16, Nat.digitChar m ≠ '"' ∧ Nat.digitChar m ≠ '\\' := by decide
  obtain ⟨quote, backslash⟩ := plain (n % 16) (Nat.mod_lt _ (by decide))
  exact (if_neg quote).trans (if_neg backslash)

theorem scan_escapeChar (k : ℕ) (c : Char) (rest : List Char) :
    (Place.reading .inside k).scan (escapeChar c ++ rest) = (Place.reading .inside k).scan rest := by
  unfold escapeChar
  split
  · rfl
  split
  · rfl
  split
  · rfl
  split
  · rfl
  split
  · rfl
  split
  · rfl
  split
  · rfl
  split
  · show (Place.reading .inside k).scan (hexDigit _ :: hexDigit _ :: rest) = _
    rw [scan_cons, step_hexDigit, Option.bind_some, scan_cons, step_hexDigit, Option.bind_some]
  · rename_i quote backslash _ _ _ _ _ _
    show (Place.reading .inside k).scan (c :: rest) = _
    rw [scan_cons, step, if_neg quote, if_neg backslash, Option.bind_some]

theorem scan_writeChars (k : ℕ) (cs rest : List Char) :
    (Place.reading .inside k).scan (writeChars cs rest) = (Place.reading .inside k).scan rest := by
  induction cs with
  | nil => rfl
  | cons c cs ih => rw [writeChars, scan_escapeChar, ih]

theorem scan_writeString (k : ℕ) (s : String) (rest : List Char) :
    (Place.reading .outside k).scan (writeString s rest) = (Place.reading .behind k).scan rest := by
  show (Place.reading .inside k).scan (writeChars s.toList ('"' :: rest)) = _
  rw [scan_writeChars, scan_cons]
  rfl

/-! ### Numbers -/

def IsInert (c : Char) : Prop := c ≠ '"' ∧ c ≠ '{' ∧ c ≠ '[' ∧ c ≠ '}' ∧ c ≠ ']'

instance (c : Char) : Decidable (IsInert c) := inferInstanceAs (Decidable (_ ∧ _))

theorem isInert_digit {c : Char} (h : isDigit c = true) : IsInert c := by
  have other : ∀ d, isDigit d = false → c ≠ d := by
    rintro d hd rfl
    exact absurd (h.symm.trans hd) (by decide)
  exact ⟨other _ rfl, other _ rfl, other _ rfl, other _ rfl, other _ rfl⟩

theorem scan_inert (k : ℕ) {cs : List Char} (h : ∀ c ∈ cs, IsInert c) (rest : List Char) :
    (Place.reading .outside k).scan (cs ++ rest) = (Place.reading .outside k).scan rest := by
  induction cs with
  | nil => rfl
  | cons c cs ih =>
    obtain ⟨quote, brace, bracket, brace', bracket'⟩ := h c (List.mem_cons_self ..)
    rw [List.cons_append, scan_cons, step, if_neg quote, if_neg (not_or.2 ⟨brace, bracket⟩),
      if_neg (not_or.2 ⟨brace', bracket'⟩), Option.bind_some, ih fun d hd => h d (List.mem_cons_of_mem _ hd)]

theorem Numeral.IsPlain.isInert_text {n : Numeral} (plain : n.IsPlain) : ∀ c ∈ n.text, IsInert c := by
  intro c hc
  rcases plain.mem_text hc with digit | mark
  · exact isInert_digit digit
  · have marks : ∀ c ∈ ['-', '+', '.', 'e'], IsInert c := by simp [IsInert]
    exact marks c mark

theorem isInert_spellInt (n : ℤ) : ∀ c ∈ spellInt n, IsInert c := by
  rw [spellInt_eq]
  exact (isPlain_ofInt n).isInert_text

theorem isInert_spellFloat (x : Float) : ∀ c ∈ spellFloat x, IsInert c := by
  cases h : Double.parts? x with
  | none =>
    rw [spellFloat, h]
    show ∀ c ∈ ['n', 'u', 'l', 'l'], IsInert c
    simp [IsInert]
  | some p =>
    obtain ⟨n, hn, spells⟩ := spellFloat_eq_text h
    rw [hn]
    exact spells.plain.isInert_text

/-! ### Documents -/

/-- Where the text of a value leaves a scan: just behind a string, or outside. -/
def endMode : Json → Mode
  | .str _ => .behind
  | _ => .outside

theorem step_close (v : Json) (k : ℕ) {c : Char} (hc : c = '}' ∨ c = ']') :
    (Place.reading (endMode v) k).step c = some (close k) := by
  rcases hc with rfl | rfl <;> cases v <;> rfl

theorem step_comma (v : Json) (k : ℕ) :
    (Place.reading (endMode v) k).step ',' = some (.reading .outside k) := by
  cases v <;> rfl

mutual

/-- The text of a value opens as many brackets as it closes. -/
theorem scan_write : ∀ (v : Json) (k : ℕ) (rest : List Char),
    (Place.reading .outside k).scan (write v rest) = (Place.reading (endMode v) k).scan rest
  | .null, k, rest => rfl
  | .bool true, k, rest => rfl
  | .bool false, k, rest => rfl
  | .int n, k, rest => scan_inert k (isInert_spellInt n) rest
  | .float x, k, rest => scan_inert k (isInert_spellFloat x) rest
  | .str s, k, rest => scan_writeString k s rest
  | .arr [], k, rest => rfl
  | .arr (x :: xs), k, rest => by
    show (Place.reading .outside (k + 1)).scan (write x (writeItems xs rest)) = _
    rw [scan_write x, scan_writeItems x xs]
    rfl
  | .obj [], k, rest => rfl
  | .obj ((key, v) :: fs), k, rest => by
    show (Place.reading .outside (k + 1)).scan (writeString key (':' :: write v (writeFields fs rest))) = _
    rw [scan_writeString]
    show (Place.reading .outside (k + 1)).scan (write v (writeFields fs rest)) = _
    rw [scan_write v, scan_writeFields v fs]
    rfl

theorem scan_writeItems : ∀ (v : Json) (xs : List Json) (k : ℕ) (rest : List Char),
    (Place.reading (endMode v) k).scan (writeItems xs rest) = (close k).scan rest
  | v, [], k, rest => by rw [writeItems, scan_cons, step_close v k (.inr rfl), Option.bind_some]
  | v, x :: xs, k, rest => by
    rw [writeItems, scan_cons, step_comma, Option.bind_some, scan_write x, scan_writeItems x xs]

theorem scan_writeFields : ∀ (v : Json) (fs : List (String × Json)) (k : ℕ) (rest : List Char),
    (Place.reading (endMode v) k).scan (writeFields fs rest) = (close k).scan rest
  | v, [], k, rest => by rw [writeFields, scan_cons, step_close v k (.inl rfl), Option.bind_some]
  | v, (key, w) :: fs, k, rest => by
    rw [writeFields, scan_cons, step_comma, Option.bind_some, scan_writeString]
    show (Place.reading .outside k).scan (write w (writeFields fs rest)) = _
    rw [scan_write w, scan_writeFields w fs]

end

theorem scan_write_obj (f : String × Json) (fs : List (String × Json)) :
    ∃ tail, write (.obj (f :: fs)) [] = '{' :: tail ∧ ∀ k, (Place.reading .outside k).scan tail = some (close k) := by
  refine ⟨_, rfl, fun k => ?_⟩
  rw [scan_writeString]
  show (Place.reading .outside k).scan (write f.2 (writeFields fs [])) = _
  rw [scan_write, scan_writeFields, scan_nil]

variable {f g : String × Json} {fs gs : List (String × Json)} {c : Char} {more : List Char}

/-- The text of an object whose first key begins with a letter is not the end of the text of a longer one: in a string the
quote before its first key would end that string, and outside of strings it would leave brackets open. -/
theorem nil_of_append_write_obj {d : List Char} (hg : write (.obj (g :: gs)) [] = '{' :: '"' :: c :: more)
    (letter : ∀ k, (Place.reading .behind k).step c = none)
    (h : write (.obj (f :: fs)) [] = d ++ write (.obj (g :: gs)) []) : d = [] := by
  obtain ⟨tail, htail, closes⟩ := scan_write_obj f fs
  cases d with
  | nil => rfl
  | cons a d =>
    rw [htail, List.cons_append] at h
    have whole := closes 0
    rw [(List.cons.inj h).2, scan_append] at whole
    obtain ⟨q, -, reads⟩ := Option.bind_eq_some_iff.1 whole
    cases q with
    | done => rw [scan_done reads] at hg; cases hg
    | reading mode k =>
      exfalso
      cases mode with
      | outside =>
        rw [scan_write, scan_nil] at reads
        cases reads
      | inside =>
        rw [hg] at reads
        change ((Place.reading .behind k).step c).bind (scan · more) = _ at reads
        rw [letter] at reads
        cases reads
      | escaped => rw [hg] at reads; cases reads
      | behind => rw [hg] at reads; cases reads

end StrategyHost.Json
