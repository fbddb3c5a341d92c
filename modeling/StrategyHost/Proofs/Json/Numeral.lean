import StrategyHost.Json.Document
import StrategyHost.Json.Printer
import StrategyHost.Proofs.Double.Shortest

/-! # Numbers read back

A number is written as the text of a `Numeral` (`Numeral.text`), and `readNumeral` reads that text back to the numeral
it was written from. Main statements: `spellInt_inj` and `spellFloat_inj`, the spelling of a number tells it from every
other, whatever follows it. -/

namespace StrategyHost.Json

theorem isDigit_of_mem_digitsOf {n : ℕ} {c : Char} (h : c ∈ Double.digitsOf n) : isDigit c = true :=
  Nat.isDigit_of_mem_toDigits (by decide) (by decide) h

theorem digitsOf_ne_nil (n : ℕ) : Double.digitsOf n ≠ [] := Nat.toDigits_ne_nil

theorem digitsOf_head_ne {n : ℕ} (hn : n ≠ 0) {c : Char} {cs : List Char} (h : Double.digitsOf n = c :: cs) : c ≠ '0' := by
  induction n using Nat.strongRecOn generalizing cs with
  | _ n ih =>
    unfold Double.digitsOf at h ih
    rcases Nat.lt_or_ge n 10 with lt | ge
    · rw [Nat.toDigits_of_lt_base lt] at h
      cases h
      intro zero
      exact hn ((by decide : ∀ m < 10, Nat.digitChar m = '0' → m = 0) n lt zero)
    · rw [Nat.toDigits_of_base_le (by decide) ge] at h
      cases hd : Nat.toDigits 10 (n / 10) with
      | nil => exact absurd hd Nat.toDigits_ne_nil
      | cons d ds =>
        rw [hd] at h
        cases h
        exact ih (n / 10) (by omega) (by omega) hd

/-! ### Reading numerals -/

/-- What may follow a number: nothing that would continue it. -/
def EndsNumber (rest : List Char) : Prop :=
  ∀ c cs, rest = c :: cs → isDigit c = false ∧ c ≠ '.' ∧ c ≠ 'e' ∧ c ≠ 'E'

namespace Numeral

def fractionText (fraction : List Char) : List Char := if fraction.isEmpty then [] else '.' :: fraction

def exponentText : Option (Bool × List Char) → List Char
  | none => []
  | some (below, ds) => 'e' :: (if below then '-' else '+') :: ds

def text (n : Numeral) : List Char :=
  (if n.negative then ['-'] else []) ++ (n.whole ++ (fractionText n.fraction ++ exponentText n.exponent))

/-- The numerals that are written: no zero leads another digit, and no part that is written has no digits. -/
structure IsPlain (n : Numeral) : Prop where
  whole_ne : n.whole ≠ []
  whole_digits : ∀ c ∈ n.whole, isDigit c = true
  leading : ∀ cs, n.whole = '0' :: cs → cs = []
  fraction_digits : ∀ c ∈ n.fraction, isDigit c = true
  exponent_ne : ∀ b ds, n.exponent = some (b, ds) → ds ≠ []
  exponent_digits : ∀ b ds, n.exponent = some (b, ds) → ∀ c ∈ ds, isDigit c = true

theorem IsPlain.mem_text {n : Numeral} (plain : n.IsPlain) {c : Char} (h : c ∈ n.text) :
    isDigit c = true ∨ c ∈ ['-', '+', '.', 'e'] := by
  unfold text at h
  rcases List.mem_append.1 h with sign | h
  · split at sign
    · rw [List.mem_singleton.1 sign]; decide
    · cases sign
  rcases List.mem_append.1 h with whole | h
  · exact .inl (plain.whole_digits c whole)
  rcases List.mem_append.1 h with fraction | exponent
  · unfold fractionText at fraction
    split at fraction
    · cases fraction
    rcases List.mem_cons.1 fraction with rfl | digit
    · decide
    · exact .inl (plain.fraction_digits c digit)
  · cases he : n.exponent with
    | none => rw [he] at exponent; cases exponent
    | some e =>
      obtain ⟨below, ds⟩ := e
      rw [he] at exponent
      rcases List.mem_cons.1 exponent with rfl | exponent
      · decide
      rcases List.mem_cons.1 exponent with rfl | digit
      · cases below <;> decide
      · exact .inl (plain.exponent_digits below ds he c digit)

end Numeral

theorem span_digits {ds rest : List Char} (hd : ∀ c ∈ ds, isDigit c = true)
    (hr : ∀ c cs, rest = c :: cs → isDigit c = false) :
    (ds ++ rest).takeWhile isDigit = ds ∧ (ds ++ rest).dropWhile isDigit = rest := by
  rw [List.takeWhile_append_of_pos hd, List.dropWhile_append_of_pos hd]
  cases rest with
  | nil => simp
  | cons c cs => simp [hr c cs rfl]

theorem readExponent_text {exponent : Option (Bool × List Char)} {rest : List Char}
    (ne : ∀ b ds, exponent = some (b, ds) → ds ≠ []) (digits : ∀ b ds, exponent = some (b, ds) → ∀ c ∈ ds, isDigit c = true)
    (hr : EndsNumber rest) : readExponent (Numeral.exponentText exponent ++ rest) = .ok (exponent, rest) := by
  cases exponent with
  | none =>
    cases rest with
    | nil => rfl
    | cons c cs =>
      obtain ⟨-, -, he, hE⟩ := hr c cs rfl
      simp [readExponent, Numeral.exponentText, he, hE]
  | some e =>
    obtain ⟨below, ds⟩ := e
    obtain ⟨take, drop⟩ := span_digits (digits below ds rfl) fun c cs h => (hr c cs h).1
    have hne := ne below ds rfl
    cases below <;>
      simp [readExponent, Numeral.exponentText, take, drop, hne]

theorem not_digit_exponentText (exponent : Option (Bool × List Char)) {rest : List Char} (hr : EndsNumber rest)
    (c : Char) (cs : List Char) (h : Numeral.exponentText exponent ++ rest = c :: cs) :
    isDigit c = false ∧ c ≠ '.' := by
  cases exponent with
  | none => exact ⟨(hr c cs h).1, (hr c cs h).2.1⟩
  | some e => cases h; exact ⟨by decide, by decide⟩

theorem readFraction_text {fraction : List Char} (exponent : Option (Bool × List Char)) {rest : List Char}
    (digits : ∀ c ∈ fraction, isDigit c = true) (hr : EndsNumber rest) :
    readFraction (Numeral.fractionText fraction ++ (Numeral.exponentText exponent ++ rest)) =
      .ok (fraction, Numeral.exponentText exponent ++ rest) := by
  have follows := not_digit_exponentText exponent hr
  generalize Numeral.exponentText exponent ++ rest = tail at *
  cases fraction with
  | nil =>
    cases tail with
    | nil => rfl
    | cons c cs => simp [readFraction, Numeral.fractionText, (follows c cs rfl).2]
  | cons d ds =>
    obtain ⟨take, drop⟩ := span_digits digits fun c cs h => (follows c cs h).1
    simp only [Numeral.fractionText, List.isEmpty_cons, Bool.false_eq_true, ↓reduceIte, List.cons_append, readFraction]
    rw [← List.cons_append, take, drop]
    rfl

theorem not_digit_fractionText (fraction : List Char) (exponent : Option (Bool × List Char)) {rest : List Char}
    (hr : EndsNumber rest) (c : Char) (cs : List Char)
    (h : Numeral.fractionText fraction ++ (Numeral.exponentText exponent ++ rest) = c :: cs) : isDigit c = false := by
  cases fraction with
  | nil => exact (not_digit_exponentText exponent hr c cs h).1
  | cons d ds => cases h; decide

theorem readWhole_digits {whole rest : List Char} (ne : whole ≠ []) (digits : ∀ c ∈ whole, isDigit c = true)
    (leading : ∀ cs, whole = '0' :: cs → cs = []) (hr : ∀ c cs, rest = c :: cs → isDigit c = false) :
    readWhole (whole ++ rest) = .ok (whole, rest) := by
  obtain ⟨take, drop⟩ := span_digits digits hr
  obtain ⟨w, ws, rfl⟩ := List.exists_cons_of_ne_nil ne
  by_cases hw : w = '0'
  · subst hw
    obtain rfl := leading ws rfl
    cases rest with
    | nil => rfl
    | cons c cs => simp [readWhole, hr c cs rfl]
  · unfold readWhole
    split
    · rename_i h
      exact absurd (List.cons.inj h).1 hw
    · simp only [take, drop]
      rfl

theorem readNumeral_text {n : Numeral} {rest : List Char} (plain : n.IsPlain) (hr : EndsNumber rest) :
    readNumeral (n.text ++ rest) = .ok (n, rest) := by
  obtain ⟨negative, whole, fraction, exponent⟩ := n
  have hwhole := readWhole_digits plain.whole_ne plain.whole_digits plain.leading
    (not_digit_fractionText fraction exponent hr)
  have hfraction := readFraction_text exponent plain.fraction_digits hr
  have hexponent := readExponent_text plain.exponent_ne plain.exponent_digits hr
  cases negative with
  | true =>
    simp only [Numeral.text, ↓reduceIte, List.cons_append, List.nil_append, List.append_assoc, readNumeral, hwhole]
    simp only [bind, Except.bind, hfraction, hexponent, pure, Except.pure]
  | false =>
    obtain ⟨w, ws, rfl⟩ := List.exists_cons_of_ne_nil plain.whole_ne
    have hw : w ≠ '-' := by
      rintro rfl
      exact absurd (plain.whole_digits '-' (List.mem_cons_self ..)) (by decide)
    simp only [Numeral.text, Bool.false_eq_true, ↓reduceIte, List.nil_append, List.append_assoc, readNumeral]
    simp only [List.cons_append] at hwhole ⊢
    split
    · rename_i h
      exact absurd (List.cons.inj h).1 hw
    simp only [hwhole]
    simp only [bind, Except.bind, hfraction, hexponent, pure, Except.pure]

/-- Two plain numerals are the same if their texts are, whatever follows them. -/
theorem Numeral.IsPlain.text_inj {m n : Numeral} {r r' : List Char} (hm : m.IsPlain) (hn : n.IsPlain)
    (hr : EndsNumber r) (hr' : EndsNumber r') (h : m.text ++ r = n.text ++ r') : m = n ∧ r = r' := by
  have read := readNumeral_text hm hr
  rw [h, readNumeral_text hn hr'] at read
  obtain ⟨hnum, hrest⟩ := Prod.mk.inj (Except.ok.inj read)
  exact ⟨hnum.symm, hrest.symm⟩

theorem ofDigitChars_digitsOf (n : ℕ) : Nat.ofDigitChars 10 (Double.digitsOf n) 0 = n :=
  Nat.ofDigitChars_ten_toDigits

theorem isDigit_of_mem_zeros {k n : ℕ} {c : Char} (h : c ∈ List.replicate k '0' ++ Double.digitsOf n) : isDigit c = true := by
  rcases List.mem_append.1 h with h | h
  · rw [List.eq_of_mem_replicate h]
    rfl
  · exact isDigit_of_mem_digitsOf h

theorem ofDigitChars_zeros (k n : ℕ) : Nat.ofDigitChars 10 (List.replicate k '0' ++ Double.digitsOf n) 0 = n := by
  rw [Nat.ofDigitChars_append, Nat.ofDigitChars_replicate_zero, Nat.mul_zero, ofDigitChars_digitsOf]

theorem le_ofDigitChars (ds : List Char) (n : ℕ) : n ≤ Nat.ofDigitChars 10 ds n := by
  rw [Nat.ofDigitChars_eq_ofDigitChars_zero]
  exact Nat.le_add_right_of_le (Nat.le_mul_of_pos_left n (Nat.pow_pos (by decide)))

/-! ### Whole numbers -/

def Numeral.ofInt (n : ℤ) : Numeral := ⟨n < 0, Double.digitsOf n.natAbs, [], none⟩

theorem spellInt_eq (n : ℤ) : spellInt n = (Numeral.ofInt n).text := by
  by_cases h : n < 0 <;> simp [spellInt, Numeral.text, Numeral.ofInt, Numeral.fractionText, Numeral.exponentText, h]

theorem isPlain_ofInt (n : ℤ) : (Numeral.ofInt n).IsPlain where
  whole_ne := digitsOf_ne_nil _
  whole_digits _ := isDigit_of_mem_digitsOf
  leading cs h := by
    by_cases hn : n.natAbs = 0
    · simp only [Numeral.ofInt, hn] at h
      cases h
      rfl
    · exact absurd rfl (digitsOf_head_ne hn h)
  fraction_digits := by simp [Numeral.ofInt]
  exponent_ne := by simp [Numeral.ofInt]
  exponent_digits := by simp [Numeral.ofInt]

theorem ofInt_injective {m n : ℤ} (h : Numeral.ofInt m = Numeral.ofInt n) : m = n := by
  simp only [Numeral.ofInt, Numeral.mk.injEq, decide_eq_decide] at h
  have digits := congrArg (Nat.ofDigitChars 10 · 0) h.2.1
  simp only [ofDigitChars_digitsOf] at digits
  have sign := h.1
  omega

/-! ### Doubles -/

namespace Numeral

def power : Option (Bool × List Char) → ℤ
  | none => 0
  | some (below, ds) => if below then -(Nat.ofDigitChars 10 ds 0 : ℤ) else Nat.ofDigitChars 10 ds 0

/-- The number that a numeral stands for, but for its sign. -/
def magnitude (n : Numeral) : ℚ :=
  Nat.ofDigitChars 10 (n.whole ++ n.fraction) 0 * 10 ^ (power n.exponent - n.fraction.length)

/-- What the numeral of a double is: it keeps the sign and the shortest decimal, and has a point or an exponent. -/
structure Spells (n : Numeral) (negative : Bool) (s : Double.Scientific) : Prop where
  plain : n.IsPlain
  sign : n.negative = negative
  magnitude : n.magnitude = s.value
  notWhole : n.fraction ≠ [] ∨ n.exponent ≠ none

variable {s : Double.Scientific} (negative : Bool)

theorem spells_whole (zero : s.digits = 0 → s.exponent = 0) (he : 0 ≤ s.exponent) :
    Spells ⟨negative, Double.digitsOf s.digits ++ List.replicate s.exponent.toNat '0', ['0'], none⟩ negative s where
  plain :=
    { whole_ne := by simp [digitsOf_ne_nil]
      whole_digits := by
        intro c hc
        rcases List.mem_append.1 hc with h | h
        · exact isDigit_of_mem_digitsOf h
        · rw [List.eq_of_mem_replicate h]; rfl
      leading := by
        intro cs h
        by_cases hd : s.digits = 0
        · simp only [hd, zero hd] at h
          cases h
          rfl
        · obtain ⟨d, ds, hds⟩ := List.exists_cons_of_ne_nil (digitsOf_ne_nil s.digits)
          simp only [hds] at h
          exact absurd (List.cons.inj h).1 (digitsOf_head_ne hd hds)
      fraction_digits := by simp; rfl
      exponent_ne := by simp
      exponent_digits := by simp }
  sign := rfl
  magnitude := by
    obtain ⟨e, he⟩ := Int.eq_ofNat_of_zero_le he
    simp only [magnitude, power, Double.Scientific.value, Nat.ofDigitChars_append, ofDigitChars_digitsOf,
      Nat.ofDigitChars_replicate_zero, he]
    simp [Nat.ofDigitChars_cons]
    ring
  notWhole := .inl (by simp)

theorem length_padded (ds : List Char) (places : ℕ) :
    places < (List.replicate (places + 1 - ds.length) '0' ++ ds).length := by
  simp only [List.length_append, List.length_replicate]
  omega

theorem spells_point (zero : s.digits = 0 → s.exponent = 0) (he : s.exponent < 0) {places : ℕ} {padded : List Char}
    (hplaces : places = (-s.exponent).toNat)
    (hpadded : padded = List.replicate (places + 1 - (Double.digitsOf s.digits).length) '0' ++ Double.digitsOf s.digits) :
    Spells ⟨negative, padded.take (padded.length - places), padded.drop (padded.length - places), none⟩ negative s := by
  have hlen : places < padded.length := hpadded ▸ length_padded _ _
  have hdigits : ∀ c ∈ padded, isDigit c = true := fun c hc => isDigit_of_mem_zeros (hpadded ▸ hc)
  refine ⟨⟨?_, ?_, ?_, ?_, by simp, by simp⟩, rfl, ?_, .inl ?_⟩
  · intro h
    have := congrArg List.length h
    simp only [List.length_take, List.length_nil] at this
    omega
  · exact fun c hc => hdigits c (List.mem_of_mem_take hc)
  · intro cs h
    rcases Nat.lt_or_ge places (Double.digitsOf s.digits).length with enough | few
    · -- no zero was put before the digits, and none of their own leads them
      rw [Nat.sub_eq_zero_of_le enough, List.replicate_zero, List.nil_append] at hpadded
      obtain ⟨d, ds, hds⟩ := List.exists_cons_of_ne_nil (digitsOf_ne_nil s.digits)
      have hd : s.digits ≠ 0 := fun h0 => by omega
      obtain ⟨k, hk⟩ := Nat.exists_eq_add_of_lt hlen
      simp only [hpadded, hds] at h
      rw [show (d :: ds).length - places = k + 1 by rw [← hds, ← hpadded]; omega, List.take_succ_cons] at h
      exact absurd (List.cons.inj h).1 (digitsOf_head_ne hd hds)
    · have one : padded.length - places = 1 := by
        rw [hpadded, List.length_append, List.length_replicate]
        omega
      have := congrArg List.length h
      simp only [List.length_take, List.length_cons] at this
      exact List.eq_nil_of_length_eq_zero (by omega)
  · exact fun c hc => hdigits c (List.mem_of_mem_drop hc)
  · simp only [Numeral.magnitude, power, List.take_append_drop, List.length_drop, Double.Scientific.value]
    rw [hpadded, ofDigitChars_zeros, ← hpadded]
    congr 2
    omega
  · intro h
    have := congrArg List.length h
    simp only [List.length_drop, List.length_nil] at this
    omega

theorem spells_exponent {lead : ℤ} (hlead : lead = s.exponent + (Double.digitsOf s.digits).length - 1) :
    Spells ⟨negative, (Double.digitsOf s.digits).take 1, (Double.digitsOf s.digits).drop 1,
      some (lead < 0, Double.digitsOf lead.natAbs)⟩ negative s := by
  obtain ⟨d, ds, hds⟩ := List.exists_cons_of_ne_nil (digitsOf_ne_nil s.digits)
  have hdigits : ∀ c ∈ d :: ds, isDigit c = true := fun c hc => isDigit_of_mem_digitsOf (hds ▸ hc)
  refine ⟨⟨?_, ?_, ?_, ?_, ?_, ?_⟩, rfl, ?_, .inr (by simp)⟩
  · simp [hds]
  · exact fun c hc => hdigits c (hds ▸ List.mem_of_mem_take hc)
  · intro cs h
    simp only [hds, List.take_succ_cons, List.take_zero] at h
    exact (List.cons.inj h).2.symm
  · exact fun c hc => hdigits c (hds ▸ List.mem_of_mem_drop hc)
  · rintro b e ⟨⟩
    exact digitsOf_ne_nil _
  · rintro b e ⟨⟩ c hc
    exact isDigit_of_mem_digitsOf hc
  · simp only [Numeral.magnitude, power, List.take_append_drop, List.length_drop, Double.Scientific.value, 
      ofDigitChars_digitsOf, decide_eq_true_iff]
    congr 2
    rw [hds, List.length_cons] at hlead ⊢
    split <;> omega

end Numeral

theorem shortest_exponent_of_digits {p : Double.Parts} (hp : p.IsCanonical) (h : p.shortest.digits = 0) :
    p.shortest.exponent = 0 := by
  rcases Nat.eq_zero_or_pos p.mantissa with zero | pos
  · rw [Double.Parts.shortest, if_pos zero]
  · have := Double.Parts.pos_of_holds pos (Double.Parts.holds_shortest hp pos)
    simp [Double.Scientific.value, h] at this

theorem spellFloat_eq_text {x : Float} {p : Double.Parts} (h : Double.parts? x = some p) :
    ∃ n : Numeral, spellFloat x = n.text ∧ n.Spells (Double.isNegative x) p.shortest := by
  have zero := shortest_exponent_of_digits (Double.isCanonical_of_parts? h)
  generalize hs : p.shortest = s at *
  generalize hneg : Double.isNegative x = negative
  simp only [spellFloat, h, hs, Double.Scientific.positional, hneg]
  split
  · by_cases he : 0 ≤ s.exponent
    · refine ⟨_, ?_, Numeral.spells_whole _ zero he⟩
      simp [Numeral.text, Numeral.fractionText, Numeral.exponentText, he]
    · refine ⟨_, ?_, Numeral.spells_point _ zero (not_le.1 he) rfl rfl⟩
      have fraction := (Numeral.spells_point negative zero (not_le.1 he) rfl rfl).notWhole.resolve_right
        (by simp)
      simp only [he, ↓reduceIte, Numeral.text, Numeral.exponentText, List.append_nil, Numeral.fractionText]
      rw [if_neg (c := List.isEmpty _ = true) (by simpa using fraction)]
  · refine ⟨_, ?_, Numeral.spells_exponent _ rfl⟩
    obtain ⟨d, ds, hds⟩ := List.exists_cons_of_ne_nil (digitsOf_ne_nil s.digits)
    cases ds <;> simp [Numeral.text, Numeral.fractionText, Numeral.exponentText, hds]

theorem eq_of_parts?_eq {x y : Float} {p : Double.Parts} (hx : Double.parts? x = some p) (hy : Double.parts? y = some p)
    (sign : Double.isNegative x = Double.isNegative y) : x = y := by
  have hxlt := x.toBits.toNat_lt
  have hylt := y.toBits.toNat_lt
  simp only [Double.isNegative, decide_eq_decide] at sign
  have bits : x.toBits.toNat = y.toBits.toNat := by
    simp only [Double.parts?] at hx hy
    split at hx
    · cases hx
    split at hy
    · cases hy
    split at hx <;> split at hy <;> cases hx <;> simp only [Option.some.injEq, Double.Parts.mk.injEq] at hy <;> omega
  obtain ⟨⟨a, ha⟩⟩ := x
  obtain ⟨⟨b, hb⟩⟩ := y
  obtain rfl : a = b := UInt64.toNat_inj.1 bits
  rfl

/-- Two finite doubles are the same if their spellings are, whatever follows them that ends a number. -/
theorem spellFloat_inj {x y : Float} (hx : Double.isFinite x = true) (hy : Double.isFinite y = true) {r r' : List Char}
    (hr : EndsNumber r) (hr' : EndsNumber r') (h : spellFloat x ++ r = spellFloat y ++ r') : x = y ∧ r = r' := by
  obtain ⟨p, hp⟩ := Option.isSome_iff_exists.1 hx
  obtain ⟨q, hq⟩ := Option.isSome_iff_exists.1 hy
  obtain ⟨m, hm, spellsM⟩ := spellFloat_eq_text hp
  obtain ⟨n, hn, spellsN⟩ := spellFloat_eq_text hq
  rw [hm, hn] at h
  obtain ⟨rfl, hrest⟩ := spellsM.plain.text_inj spellsN.plain hr hr' h
  obtain rfl : p = q := Double.Parts.shortest_injective (Double.isCanonical_of_parts? hp)
    (Double.isCanonical_of_parts? hq) (spellsM.magnitude.symm.trans spellsN.magnitude)
  exact ⟨eq_of_parts?_eq hp hq (spellsM.sign.symm.trans spellsN.sign), hrest⟩

/-- Two whole numbers are the same if their spellings are, whatever follows them that ends a number. -/
theorem spellInt_inj {m n : ℤ} {r r' : List Char} (hr : EndsNumber r) (hr' : EndsNumber r')
    (h : spellInt m ++ r = spellInt n ++ r') : m = n ∧ r = r' := by
  rw [spellInt_eq, spellInt_eq] at h
  obtain ⟨hnum, hrest⟩ := (isPlain_ofInt m).text_inj (isPlain_ofInt n) hr hr' h
  exact ⟨ofInt_injective hnum, hrest⟩

theorem spellInt_ne_spellFloat {n : ℤ} {x : Float} (hx : Double.isFinite x = true) {r r' : List Char}
    (hr : EndsNumber r) (hr' : EndsNumber r') : spellInt n ++ r ≠ spellFloat x ++ r' := by
  intro h
  obtain ⟨p, hp⟩ := Option.isSome_iff_exists.1 hx
  obtain ⟨m, hm, spells⟩ := spellFloat_eq_text hp
  rw [spellInt_eq, hm] at h
  obtain ⟨rfl, -⟩ := (isPlain_ofInt n).text_inj spells.plain hr hr' h
  rcases spells.notWhole with point | exponent
  · exact point rfl
  · exact exponent rfl

end StrategyHost.Json
