import Mathlib.Data.String.Basic
import StrategyHost.Proofs.Json.Decoding

/-! # How much text a document holds

The texts in a document are no longer than the text that it was read from (`extent_readText`): whatever is read as a part of it takes
its own stretch of the text, and no escape is shorter than the character that it stands for. -/

namespace StrategyHost.Json
open String

mutual

/-- The bytes of all texts in a document that are values. -/
def Doc.extent : Doc → ℕ
  | .str (some s) => s.utf8ByteSize
  | .arr _ items _ => itemsExtent items
  | .obj _ fields _ => fieldsExtent fields
  | _ => 0

def itemsExtent : List Doc → ℕ
  | [] => 0
  | d :: ds => d.extent + itemsExtent ds

def fieldsExtent : List (Option String × Doc) → ℕ
  | [] => 0
  | (_, d) :: fs => d.extent + fieldsExtent fs

end

def left : Option (List Char) → ℕ
  | some cs => utf8Len cs
  | none => 0

/-! ### Lexemes -/

section
variable {cs r : List Char}

theorem utf8Len_skipBlanks (cs : List Char) : utf8Len (skipBlanks cs) ≤ utf8Len cs :=
  utf8Len_le_of_suffix (List.dropWhile_suffix _)

theorem suffix_of_readWord {ws : List Char} (h : readWord ws cs = .ok r) : r <:+ cs := by
  induction ws generalizing cs with
  | nil => cases h; exact List.suffix_refl _
  | cons w ws ih =>
    cases cs with
    | nil => cases h
    | cons c cs =>
      rw [readWord] at h
      split at h
      · exact (ih h).trans (List.suffix_cons _ _)
      · cases h

theorem suffix_of_readWhole {ds : List Char} (h : readWhole cs = .ok (ds, r)) : r <:+ cs := by
  unfold readWhole at h
  split at h
  · split at h <;> cases h
    exact List.suffix_cons _ _
  · dsimp only at h
    split at h <;> cases h
    exact List.dropWhile_suffix _

theorem suffix_of_readFraction {ds : List Char} (h : readFraction cs = .ok (ds, r)) : r <:+ cs := by
  unfold readFraction at h
  split at h
  · dsimp only at h
    split at h <;> cases h
    exact (List.dropWhile_suffix _).trans (List.suffix_cons _ _)
  · cases h
    exact List.suffix_refl _

theorem suffix_of_readExponent {e : Option (Bool × List Char)} (h : readExponent cs = .ok (e, r)) : r <:+ cs := by
  unfold readExponent at h
  split at h
  · split at h
    · dsimp only at h
      have inner (ds : List Char) : ds.dropWhile isDigit <:+ ds := List.dropWhile_suffix _
      split at h <;> split at h <;> cases h
      · exact (inner _).trans ((List.suffix_cons _ _).trans (List.suffix_cons _ _))
      · exact (inner _).trans ((List.suffix_cons _ _).trans (List.suffix_cons _ _))
      · exact (inner _).trans (List.suffix_cons _ _)
    · cases h
      exact List.suffix_refl _
  · cases h
    exact List.suffix_refl _

theorem suffix_of_readNumeral {n : Numeral} (h : readNumeral cs = .ok (n, r)) : r <:+ cs := by
  unfold readNumeral at h
  obtain ⟨⟨whole, r₁⟩, hwhole, h⟩ := bind_eq_ok.1 h
  obtain ⟨⟨fraction, r₂⟩, hfraction, h⟩ := bind_eq_ok.1 h
  obtain ⟨⟨exponent, r₃⟩, hexponent, h⟩ := bind_eq_ok.1 h
  cases h
  refine ((suffix_of_readExponent hexponent).trans (suffix_of_readFraction hfraction)).trans
    ((suffix_of_readWhole hwhole).trans ?_)
  split
  · exact List.suffix_cons _ _
  · exact List.suffix_refl _

theorem utf8Len_readHex4 {n : ℕ} (h : readHex4 cs = .ok (n, r)) : utf8Len r + 4 ≤ utf8Len cs := by
  unfold readHex4 at h
  split at h
  · rename_i a b c d r'
    split at h <;> cases h
    simp only [utf8Len_cons]
    have := a.utf8Size_pos
    have := b.utf8Size_pos
    have := c.utf8Size_pos
    have := d.utf8Size_pos
    omega
  · cases h

theorem utf8Len_readCodeUnit {c? : Option Char} (h : readCodeUnit cs = .ok (c?, r)) : utf8Len r + 4 ≤ utf8Len cs := by
  unfold readCodeUnit at h
  obtain ⟨⟨n, r₁⟩, first, h⟩ := bind_eq_ok.1 h
  have := utf8Len_readHex4 first
  dsimp only at h
  split at h
  · cases h
    exact this
  · split at h
    · split at h
      · rename_i cs'
        obtain ⟨⟨m, r₂⟩, second, h⟩ := bind_eq_ok.1 h
        have later := utf8Len_readHex4 second
        simp only [utf8Len_cons] at this
        split at h <;> cases h <;> dsimp only <;> omega
      · cases h
        exact this
    · cases h
      exact this

theorem utf8Size_unescape {e c : Char} (h : unescape? e = some c) : c.utf8Size = 1 := by
  unfold unescape? at h
  split at h <;> cases h <;> rfl

/-- A string takes at least as many bytes of the text as it has itself. -/
theorem utf8Len_readStringTail {fuel : ℕ} {valid : Bool} {acc : List Char} {s? : Option String}
    (h : readStringTail fuel valid acc cs = .ok (s?, r)) : s?.elim 0 utf8ByteSize + utf8Len r ≤ utf8Len acc + utf8Len cs := by
  fun_induction readStringTail fuel valid acc cs with
  | case3 fuel valid acc cs =>
    cases h
    simp only [utf8Len_cons]
    split
    · simp [utf8ByteSize_ofList]
    · simp; omega
  | case6 fuel valid acc cs' ch r' unit _ ih =>
    have := utf8Len_readCodeUnit unit
    have := ch.utf8Size_le_four
    have := ih h
    simp only [utf8Len_cons] at this ⊢
    omega
  | case7 fuel valid acc cs' r' unit _ ih =>
    have := utf8Len_readCodeUnit unit
    have := ih h
    simp only [utf8Len_cons] at this ⊢
    omega
  | case8 fuel valid acc e cs' _ ch escape _ ih =>
    have := utf8Size_unescape escape
    have := e.utf8Size_pos
    have := ih h
    simp only [utf8Len_cons] at this ⊢
    omega
  | case11 fuel valid acc c cs _ _ _ ih =>
    have := ih h
    simp only [utf8Len_cons] at this ⊢
    omega
  | _ => cases h

theorem utf8Len_readString {s? : Option String} (h : readString cs = .ok (s?, r)) : s?.elim 0 utf8ByteSize + utf8Len r ≤ utf8Len cs := by
  unfold readString at h
  split at h
  · have := utf8Len_readStringTail h
    simp only [utf8Len_cons, utf8Len_nil] at this ⊢
    omega
  · cases h

theorem extent_word {d : Doc} {c : Char} {ws : List Char} (hd : d.extent = 0) :
    (match readWord ws cs with | .ok r => leaf d r | .error f => halt f).1.extent +
      left (match readWord ws cs with | .ok r => leaf d r | .error f => halt f).2 ≤ utf8Len (c :: cs) := by
  cases h : readWord ws cs with
  | error f => exact Nat.zero_le _
  | ok r =>
    show d.extent + utf8Len r ≤ utf8Len (c :: cs)
    rw [hd, Nat.zero_add]
    exact utf8Len_le_of_suffix ((suffix_of_readWord h).trans (List.suffix_cons _ _))

theorem extent_readScalar (cs : List Char) : (readScalar cs).1.extent + left (readScalar cs).2 ≤ utf8Len cs := by
  unfold readScalar
  split
  · exact Nat.zero_le _
  · exact extent_word rfl
  · exact extent_word rfl
  · exact extent_word rfl
  · split
    · rename_i s r h
      have := utf8Len_readString h
      cases s <;> exact this
    · exact Nat.zero_le _
  · split
    · split
      · rename_i n r h
        have : utf8Len r ≤ _ := utf8Len_le_of_suffix (suffix_of_readNumeral h)
        exact (Nat.zero_add _).symm ▸ this
      · exact Nat.zero_le _
    · exact Nat.zero_le _

end

/-! ### Trees -/

section
variable {fuel : ℕ} (level : ℕ) (cs : List Char)

theorem extent_readValue (items : ∀ level cs, itemsExtent (readItems fuel level cs).1 + left (readItems fuel level cs).2.2 ≤ utf8Len cs)
    (fields : ∀ level cs, fieldsExtent (readFields fuel level cs).1 + left (readFields fuel level cs).2.2 ≤ utf8Len cs) :
    (readValue (fuel + 1) level cs).1.extent + left (readValue (fuel + 1) level cs).2 ≤ utf8Len cs := by
  have blank := utf8Len_skipBlanks cs
  rw [readValue]
  split
  · rename_i r opened
    have blank' := utf8Len_skipBlanks r
    rw [opened, utf8Len_cons] at blank
    split
    · rename_i r' closed
      rw [closed, utf8Len_cons] at blank'
      simp only [leaf, Doc.extent, itemsExtent, left]
      omega
    · exact (items (level + 1) (skipBlanks r)).trans (by omega)
  · rename_i r opened
    have blank' := utf8Len_skipBlanks r
    rw [opened, utf8Len_cons] at blank
    split
    · rename_i r' closed
      rw [closed, utf8Len_cons] at blank'
      simp only [leaf, Doc.extent, fieldsExtent, left]
      omega
    · exact (fields (level + 1) (skipBlanks r)).trans (by omega)
  · exact (extent_readScalar (skipBlanks cs)).trans blank

theorem extent_readItems (values : ∀ level cs, (readValue fuel level cs).1.extent + left (readValue fuel level cs).2 ≤ utf8Len cs)
    (items : ∀ level cs, itemsExtent (readItems fuel level cs).1 + left (readItems fuel level cs).2.2 ≤ utf8Len cs) :
    itemsExtent (readItems (fuel + 1) level cs).1 + left (readItems (fuel + 1) level cs).2.2 ≤ utf8Len cs := by
  have value := values level cs
  rw [readItems]
  split
  · rename_i d read
    rw [read] at value
    exact value
  · rename_i d r read
    rw [read] at value
    simp only [left] at value
    have blank := utf8Len_skipBlanks r
    split
    · rename_i r' closed
      rw [closed, utf8Len_cons] at blank
      simp only [itemsExtent, left]
      omega
    · rename_i r' comma
      have blank' := utf8Len_skipBlanks r'
      rw [comma, utf8Len_cons] at blank
      split
      · simp only [itemsExtent, left]
        omega
      · have more := Nat.add_le_add_left (items level (skipBlanks r')) d.extent
        rw [← Nat.add_assoc] at more
        exact more.trans (by omega)
    · simp only [itemsExtent, left]
      omega

theorem extent_readFields (values : ∀ level cs, (readValue fuel level cs).1.extent + left (readValue fuel level cs).2 ≤ utf8Len cs)
    (fields : ∀ level cs, fieldsExtent (readFields fuel level cs).1 + left (readFields fuel level cs).2.2 ≤ utf8Len cs) :
    fieldsExtent (readFields (fuel + 1) level cs).1 + left (readFields (fuel + 1) level cs).2.2 ≤ utf8Len cs := by
  have start := utf8Len_skipBlanks cs
  rw [readFields]
  split
  · exact Nat.zero_le _
  · rename_i key r name
    have named := utf8Len_readString name
    have blank := utf8Len_skipBlanks r
    split
    · rename_i after colon
      rw [colon, utf8Len_cons] at blank
      have value := values level after
      split
      · rename_i d read
        rw [read] at value
        simp only [fieldsExtent, left] at value ⊢
        omega
      · rename_i d rest read
        rw [read] at value
        simp only [left] at value
        have blank' := utf8Len_skipBlanks rest
        split
        · rename_i r' closed
          rw [closed, utf8Len_cons] at blank'
          simp only [fieldsExtent, left]
          omega
        · rename_i r' comma
          rw [comma, utf8Len_cons] at blank'
          have next := utf8Len_skipBlanks r'
          have more := Nat.add_le_add_left (fields level (skipBlanks r')) d.extent
          rw [← Nat.add_assoc] at more
          exact more.trans (by omega)
        · simp only [fieldsExtent, left]
          omega
    · exact Nat.zero_le _

end

theorem extent_read (fuel : ℕ) : (∀ level cs, (readValue fuel level cs).1.extent + left (readValue fuel level cs).2 ≤ utf8Len cs) ∧
    (∀ level cs, itemsExtent (readItems fuel level cs).1 + left (readItems fuel level cs).2.2 ≤ utf8Len cs) ∧
      ∀ level cs, fieldsExtent (readFields fuel level cs).1 + left (readFields fuel level cs).2.2 ≤ utf8Len cs := by
  induction fuel with
  | zero => exact ⟨fun _ _ => Nat.zero_le _, fun _ _ => Nat.zero_le _, fun _ _ => Nat.zero_le _⟩
  | succ fuel ih =>
    obtain ⟨values, items, fields⟩ := ih
    exact ⟨fun level cs => extent_readValue level cs items fields, fun level cs => extent_readItems level cs values items,
      fun level cs => extent_readFields level cs values fields⟩

/-- The texts in a document are no longer than the text that it was read from. -/
theorem extent_readText (text : String) : (readText text).1.extent ≤ text.utf8ByteSize := by
  have read := (extent_read (2 * text.toList.length + 1)).1 0 text.toList
  have whole : utf8Len text.toList = text.utf8ByteSize := by
    rw [← utf8ByteSize_ofList, ofList_toList]
  unfold readText
  dsimp only
  split
  · rename_i d h
    rw [h] at read
    exact (Nat.le_add_right _ _).trans (read.trans_eq whole)
  · rename_i d r h
    rw [h] at read
    exact (Nat.le_add_right _ _).trans (read.trans_eq whole)

/-! ### Records -/

section
variable {α : Type} {a b name : String} {slot : String → Slot} {items : List Doc} {fields : List (Option String × Doc)}

theorem fieldsExtent_eq (fields : List (Option String × Doc)) : fieldsExtent fields = itemsExtent (fields.map (·.2)) := by
  induction fields with
  | nil => rfl
  | cons f fields ih => rw [fieldsExtent, ih, List.map_cons, itemsExtent]

def optExtent (d? : Option Doc) : ℕ := d?.elim 0 Doc.extent

theorem optExtent_le (items : List Doc) (i : ℕ) : optExtent items[i]? ≤ itemsExtent items := by
  induction items generalizing i with
  | nil => exact Nat.zero_le _
  | cons d items ih =>
    cases i with
    | zero => exact Nat.le_add_right _ _
    | succ i => exact (ih i).trans (Nat.le_add_left _ _)

theorem optExtent_add_le {i j : ℕ} (h : i ≠ j) : optExtent items[i]? + optExtent items[j]? ≤ itemsExtent items := by
  induction items generalizing i j with
  | nil => exact Nat.zero_le _
  | cons d items ih =>
    cases i with
    | zero =>
      cases j with
      | zero => exact absurd rfl h
      | succ j => exact Nat.add_le_add_left (optExtent_le items j) _
    | succ i =>
      cases j with
      | zero => exact (Nat.add_comm _ _).trans_le (Nat.add_le_add_left (optExtent_le items i) _)
      | succ j => exact (ih fun same => h (congrArg (· + 1) same)).trans (Nat.le_add_left _ _)

def Slot.extent : Slot → ℕ
  | present _ d => d.extent
  | _ => 0

theorem extent_objectSlot (fields : List (Option String × Doc)) (name : String) : (Fields.objectSlot fields name).extent = 0 ∨
    ∃ i : ℕ, (fields.map (·.1))[i]? = some (some name) ∧
      (Fields.objectSlot fields name).extent = optExtent (fields.map (·.2))[i]? := by
  unfold Fields.objectSlot
  split
  · rename_i i found
    obtain ⟨inside, named, -⟩ := List.findIdx?_eq_some_iff_getElem.1 found
    rw [List.getElem?_eq_getElem inside]
    refine .inr ⟨i, ?_, ?_⟩
    · simpa [inside] using named
    · simp [inside, Slot.extent, optExtent]
  · exact .inl rfl

theorem extent_objectSlot_add (h : a ≠ b) :
    (Fields.objectSlot fields a).extent + (Fields.objectSlot fields b).extent ≤ fieldsExtent fields := by
  rw [fieldsExtent_eq]
  rcases extent_objectSlot fields a with none | ⟨i, first, hi⟩ <;> rcases extent_objectSlot fields b with none' | ⟨j, second, hj⟩
  · omega
  · rw [none, hj, Nat.zero_add]
    exact optExtent_le _ j
  · rw [none', hi]
    exact optExtent_le _ i
  · rw [hi, hj]
    refine optExtent_add_le ?_
    rintro rfl
    rw [first] at second
    cases second
    exact h rfl

theorem extent_arraySlot {names : List String} (items : List Doc) (name : String) :
    (Fields.arraySlot names items name).extent = optExtent items[names.findIdx (· == name)]? := by
  unfold Fields.arraySlot
  dsimp only
  split
  · rename_i d there
    rw [there]
    rfl
  · rename_i nothing
    rw [nothing]
    rfl

theorem extent_arraySlot_add {names : List String} (h : a ≠ b) (ha : a ∈ names) :
    (Fields.arraySlot names items a).extent + (Fields.arraySlot names items b).extent ≤ itemsExtent items := by
  rw [extent_arraySlot, extent_arraySlot]
  refine optExtent_add_le fun same => ?_
  have inside : names.findIdx (· == a) < names.length := List.findIdx_lt_length.2 ⟨a, ha, beq_self_eq_true a⟩
  have first := List.findIdx_getElem (p := (· == a)) (w := inside)
  have second := List.findIdx_getElem (p := (· == b)) (w := same ▸ inside)
  simp only [← same, beq_iff_eq] at first second
  exact h (first.symm.trans second)

theorem not_unexpected {d : Doc} {x : α} : unexpected d ≠ .ok x := by
  unfold unexpected mismatch
  split <;> nofun

theorem slots_of_record {fs : Fields α} {d : Doc} {x : α} (h : Decoder.record fs d = .ok x) :
    ∃ slot, fs.read slot = .ok x ∧ ∀ a b, a ∈ fs.names → a ≠ b → (slot a).extent + (slot b).extent ≤ d.extent := by
  unfold Decoder.record at h
  split at h
  · obtain ⟨-, -, h⟩ := bind_eq_ok.1 h
    exact ⟨_, (earlier_eq_ok.1 h).1, fun a b _ other => extent_objectSlot_add other⟩
  · obtain ⟨-, -, h⟩ := bind_eq_ok.1 h
    exact ⟨_, (earlier_eq_ok.1 h).1, fun a b ha other => extent_arraySlot_add other ha⟩
  · exact absurd h not_unexpected

namespace Fields

theorem read_required_eq_ok {d : Decoder α} {x : α} :
    (required name d).read slot = .ok x ↔ ∃ place doc, slot name = .present place doc ∧ d doc = .ok x := by
  simp only [required]
  cases slot name <;> simp [located, mismatch, mapError_eq_ok]

theorem read_withDefault_eq_ok {d : Decoder α} {x y : α} (h : (withDefault name y d).read slot = .ok x) :
    x = y ∨ ∃ place doc, slot name = .present place doc ∧ d doc = .ok x := by
  simp only [withDefault] at h
  cases there : slot name with
  | present place doc =>
    rw [there] at h
    exact .inr ⟨place, doc, rfl, mapError_eq_ok.1 h⟩
  | absent place =>
    rw [there] at h
    cases h
    exact .inl rfl
  | pastEnd place =>
    rw [there] at h
    cases h
    exact .inl rfl

end Fields

theorem string_eq_ok {d : Doc} {s : String} (h : Decoder.string d = .ok s) : d = .str (some s) := by
  unfold Decoder.string at h
  split at h
  · cases h
    rfl
  · exact absurd h not_unexpected

theorem lt_of_nat {bits n : ℕ} {d : Doc} (h : Decoder.nat bits d = .ok n) : n < 2 ^ bits := by
  obtain ⟨m, read, rfl⟩ := map_eq_ok.1 h
  obtain ⟨v, -, within⟩ := bind_eq_ok.1 read
  dsimp only at within
  split at within
  · split at within <;> cases within
    rename_i bounds
    have : ((m.toNat : ℕ) : ℤ) < ((2 ^ bits : ℕ) : ℤ) := by
      push_cast
      omega
    exact_mod_cast this
  · cases within

theorem mem_of_list {dec : Decoder α} {d : Doc} {xs : List α} (h : dec.list d = .ok xs) {x : α} (hx : x ∈ xs) :
    ∃ doc, dec doc = .ok x := by
  have items {ds : List Doc} {xs : List α} (h : dec.listItems ds = .ok xs) {x : α} (hx : x ∈ xs) : ∃ doc, dec doc = .ok x := by
    induction ds generalizing xs with
    | nil =>
      cases h
      cases hx
    | cons d ds ih =>
      obtain ⟨y, first, h⟩ := bind_eq_ok.1 h
      obtain ⟨ys, rest, h⟩ := bind_eq_ok.1 h
      cases h
      rcases List.mem_cons.1 hx with rfl | hx
      · exact ⟨d, first⟩
      · exact ih rest hx
  unfold Decoder.list at h
  split at h
  · obtain ⟨-, -, h⟩ := bind_eq_ok.1 h
    obtain ⟨ys, read, h⟩ := bind_eq_ok.1 h
    obtain ⟨-, rfl⟩ := checkStop_eq_ok.1 h
    exact items read hx
  · exact absurd h not_unexpected

theorem option_eq_ok {dec : Decoder α} {d : Doc} {x : α} (h : dec.option d = .ok (some x)) : dec d = .ok x := by
  unfold Decoder.option at h
  split at h
  · cases h
  · obtain ⟨y, hy, same⟩ := map_eq_ok.1 h
    cases same
    exact hy

theorem doc_of_decodeText {dec : Decoder α} {text : String} {x : α} (h : decodeText dec text = .ok x) :
    ∃ d : Doc, dec d = .ok x ∧ d.extent ≤ text.utf8ByteSize := by
  obtain ⟨y, read, h⟩ := bind_eq_ok.1 h
  obtain ⟨-, rfl⟩ := checkStop_eq_ok.1 h
  exact ⟨(readText text).1, read, extent_readText text⟩

end

end StrategyHost.Json
