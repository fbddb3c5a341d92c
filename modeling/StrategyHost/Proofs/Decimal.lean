import StrategyHost.Decimal.Basic
import StrategyHost.Proofs.Json.Numeral

/-! # Decimals read back

A decimal in full holds as many digits as its mantissa and its scale have room for, so nothing is rounded when it is read.
Main statement: `read?_toString`, a decimal is read back from its text but for the sign of a zero. Every decimal that is read
has none (`isNormal_of_read?`). -/

namespace StrategyHost.Decimal

def IsNormal (d : Decimal) : Prop := d.mantissa = 0 → d.negative = false

instance (d : Decimal) : Decidable d.IsNormal := inferInstanceAs (Decidable (_ → _))

def unsigned (d : Decimal) : Decimal := { d with negative := d.negative && d.mantissa != 0 }

section Unsigned
variable {d : Decimal}

theorem isNormal_unsigned : d.unsigned.IsNormal := by
  intro zero
  have mantissa : d.mantissa = 0 := zero
  simp [unsigned, mantissa]

theorem IsNormal.unsigned (h : d.IsNormal) : d.unsigned = d := by
  obtain ⟨negative, mantissa, scale, _, _⟩ := d
  have sign : (negative && mantissa != 0) = negative := by
    by_cases zero : mantissa = 0
    · have : negative = false := h zero
      simp [this]
    · simp [zero]
  simp only [Decimal.unsigned, sign]

theorem numerator_unsigned : d.unsigned.numerator = d.numerator := by
  by_cases zero : d.mantissa = 0
  · simp [unsigned, numerator, zero]
  · simp [unsigned, numerator, zero]

theorem ofParts?_unsigned : ofParts? d.negative d.mantissa d.scale = some d.unsigned :=
  dif_pos ⟨d.mantissa_lt, d.scale_le⟩

end Unsigned

/-! ### Digits -/

section Digits
variable {ds : List Char} {m scale : ℕ}

theorem scanDigits_digits (point seen : Bool) {rest : List Char} (digits : ∀ c ∈ ds, c.isDigit = true)
    (fits : Nat.ofDigitChars 10 ds m < 2 ^ 96) (room : point = true → scale + ds.length ≤ 28) (whole : point = false → scale = 0) :
    scanDigits point seen m scale (ds ++ rest) =
      scanDigits point (seen || !ds.isEmpty) (Nat.ofDigitChars 10 ds m) (if point then scale + ds.length else 0) rest := by
  induction ds generalizing seen m scale with
  | nil => cases point <;> simp [whole]
  | cons c ds ih =>
    have full : ¬ (point = true ∧ 28 ≤ scale) := fun ⟨hp, hs⟩ => by
      have := room hp
      simp only [List.length_cons] at this
      omega
    have next : 10 * m + (c.toNat - '0'.toNat) = m * 10 + (c.toNat - 48) := congrArg (· + _) (Nat.mul_comm ..)
    rw [Nat.ofDigitChars_cons, next] at fits
    rw [List.cons_append, scanDigits, if_neg full, if_pos (digits c (List.mem_cons_self ..)),
      if_pos (lt_of_le_of_lt (Json.le_ofDigitChars ..) fits), Nat.ofDigitChars_cons, next,
      ih _ (fun c hc => digits c (List.mem_cons_of_mem _ hc)) fits]
    · cases point <;> simp [Nat.add_comm, Nat.add_left_comm]
    · rintro rfl
      simpa [Nat.add_assoc, Nat.add_comm 1] using room rfl
    · rintro rfl
      rfl

end Digits

/-! ### Texts -/

variable (d : Decimal)

def body : List Char := (Double.Scientific.mk d.mantissa (-(d.scale : Int))).positional false

/-- The digits of a decimal, with zeros before them where the scale asks for more. -/
def padded : List Char :=
  List.replicate (d.scale + 1 - (Double.digitsOf d.mantissa).length) '0' ++ Double.digitsOf d.mantissa

theorem isDigit_padded {c : Char} (h : c ∈ d.padded) : c.isDigit = true := Json.isDigit_of_mem_zeros h

theorem ofDigitChars_padded : Nat.ofDigitChars 10 d.padded 0 = d.mantissa := Json.ofDigitChars_zeros ..

theorem body_eq : d.body = if d.scale = 0 then d.padded else
    d.padded.take (d.padded.length - d.scale) ++ '.' :: d.padded.drop (d.padded.length - d.scale) := by
  have digits := List.length_pos_of_ne_nil (Json.digitsOf_ne_nil d.mantissa)
  by_cases whole : d.scale = 0
  · simp [body, padded, Double.Scientific.positional, whole, Nat.sub_eq_zero_of_le (Nat.succ_le_of_lt digits)]
  · simp only [body, padded, Double.Scientific.positional, whole, ↓reduceIte, neg_neg, Int.toNat_natCast]
    rw [if_neg (by omega)]

theorem scanDigits_body : scanDigits false false 0 0 d.body = some (d.mantissa, d.scale) := by
  have long : d.scale < d.padded.length := Json.Numeral.length_padded _ _
  have fits : Nat.ofDigitChars 10 d.padded 0 < 2 ^ 96 := d.ofDigitChars_padded ▸ d.mantissa_lt
  rw [body_eq]
  split_ifs with whole
  · rw [← List.append_nil d.padded, scanDigits_digits false false (fun _ => d.isDigit_padded) fits nofun (fun _ => rfl)]
    have nonempty : d.padded ≠ [] := List.ne_nil_of_length_pos (Nat.zero_lt_of_lt long)
    simp [scanDigits, d.ofDigitChars_padded, whole, nonempty]
  · generalize hw : d.padded.take (d.padded.length - d.scale) = w
    generalize hf : d.padded.drop (d.padded.length - d.scale) = f
    have split : w ++ f = d.padded := by rw [← hw, ← hf, List.take_append_drop]
    have nonempty : w.isEmpty = false := by
      rw [List.isEmpty_eq_false_iff_exists_mem, ← List.length_pos_iff_exists_mem, ← hw, List.length_take]
      omega
    have places : f.length = d.scale := by rw [← hf, List.length_drop]; omega
    have value : Nat.ofDigitChars 10 f (Nat.ofDigitChars 10 w 0) = d.mantissa := by
      rw [← Nat.ofDigitChars_append, split, ofDigitChars_padded]
    have small : Nat.ofDigitChars 10 f (Nat.ofDigitChars 10 w 0) < 2 ^ 96 := value ▸ d.mantissa_lt
    rw [scanDigits_digits false false (fun c hc => d.isDigit_padded (split ▸ List.mem_append_left _ hc))
      (lt_of_le_of_lt (Json.le_ofDigitChars ..) small) nofun (fun _ => rfl)]
    have point : scanDigits false true (Nat.ofDigitChars 10 w 0) 0 ('.' :: f) =
        scanDigits true true (Nat.ofDigitChars 10 w 0) 0 (f ++ []) := by simp [scanDigits]
    simp only [nonempty, Bool.false_or, Bool.not_false, Bool.false_eq_true, ↓reduceIte]
    rw [point, scanDigits_digits true true (fun c hc => d.isDigit_padded (split ▸ List.mem_append_right _ hc)) small
      (fun _ => by have := d.scale_le; omega) nofun]
    simp [scanDigits, value, places]

theorem toString_toList : d.toString.toList = if d.negative then '-' :: d.body else d.body :=
  String.toList_ofList

theorem splitSign_body : splitSign d.body = (false, d.body) := by
  have read := d.scanDigits_body
  generalize d.body = cs at *
  unfold splitSign
  split
  · simp [scanDigits] at read
  · simp [scanDigits] at read
  · rfl

variable {d}

/-- A decimal is read back from its text but for the sign of a zero. -/
theorem parse?_toString : parse? d.toString = some d.unsigned := by
  have signed : splitSign d.toString.toList = (d.negative, d.body) := by
    rw [toString_toList]
    cases d.negative
    · exact d.splitSign_body
    · rfl
  simp only [parse?, parseChars?, signed, d.scanDigits_body, Option.bind_eq_bind, Option.bind_some, ofParts?_unsigned]

theorem read?_toString : read? d.toString = some d.unsigned := by
  rw [read?, parse?_toString]
  rfl

/-! ### Decimals that are read -/

theorem isNormal_of_ofParts? {negative : Bool} {m scale : ℕ} (h : ofParts? negative m scale = some d) : d.IsNormal := by
  unfold Decimal.ofParts? at h
  split at h
  · cases h
    intro zero
    simp_all
  · cases h

theorem isNormal_ofInt {n : ℤ} : (ofInt n).IsNormal := by
  rw [ofInt]
  cases parts : ofParts? (n < 0) n.natAbs 0 with
  | none => exact fun _ => rfl
  | some d => exact isNormal_of_ofParts? parts

theorem isNormal_of_parseChars? {cs : List Char} (h : parseChars? cs = some d) : d.IsNormal := by
  simp only [parseChars?, Option.bind_eq_bind, Option.bind_eq_some_iff] at h
  obtain ⟨_, _, parts⟩ := h
  exact isNormal_of_ofParts? parts

theorem isNormal_of_parseScientific? {s : String} (h : parseScientific? s = some d) : d.IsNormal := by
  simp only [parseScientific?, Option.bind_eq_bind, Option.bind_eq_some_iff] at h
  obtain ⟨base, hbase, h⟩ := h
  have normal := isNormal_of_parseChars? hbase
  split at h
  · cases h
  · obtain ⟨e, -, h⟩ := Option.bind_eq_some_iff.1 h
    split_ifs at h
    cases h
    exact normal
  · obtain ⟨e, -, h⟩ := Option.bind_eq_some_iff.1 h
    split_ifs at h
    · exact isNormal_of_ofParts? h
    · exact isNormal_of_ofParts? h

theorem isNormal_of_read? {s : String} (h : read? s = some d) : d.IsNormal := by
  rw [read?] at h
  cases full : parse? s with
  | some e =>
    rw [full] at h
    cases h
    exact isNormal_of_parseChars? full
  | none =>
    rw [full] at h
    exact isNormal_of_parseScientific? h

end StrategyHost.Decimal
