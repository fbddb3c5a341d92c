import Mathlib.Tactic.IntervalCases
import StrategyHost.Instant
import StrategyHost.Proofs.Json.Decoding

/-! # Points in time read back

A day has one date in the calendar, and the date gives back the day (`isDateOf_civilFromDays`). Main statement:
`parse?_toString`, a point in time is read back from its text. -/

namespace StrategyHost.Instant

/-! ### Civil dates -/

/-- The years of an era begin on the first of March, and only leap years have a 366th day. -/
theorem yearOfEra_spec {day y : ℤ} (low : 0 ≤ day) (high : day < 146097)
    (hy : y = (day - day / 1460 + day / 36524 - day / 146096) / 365) :
    0 ≤ y ∧ y ≤ 399 ∧ 0 ≤ day - (365 * y + y / 4 - y / 100) ∧ day - (365 * y + y / 4 - y / 100) ≤ 365 ∧
      (day - (365 * y + y / 4 - y / 100) = 365 → y % 4 = 3 ∧ (y % 100 = 99 → y = 399)) := by
  have bounds : 0 ≤ y ∧ y ≤ 399 := by omega
  have centuries : y / 100 = day / 36524 - day / 146096 := by
    have few : day / 36524 = 0 ∨ day / 36524 = 1 ∨ day / 36524 = 2 ∨ day / 36524 = 3 ∨ day / 36524 = 4 := by omega
    rcases few with h | h | h | h | h <;> omega
  have leaps : y / 4 ≤ day / 1460 := by omega
  have leaps' : day / 1460 ≤ y / 4 + 1 := by omega
  exact ⟨bounds.1, bounds.2, by omega, by omega, fun last => ⟨by omega, fun century => by omega⟩⟩

theorem day_le_of_spring {year doy s : ℤ} (hs : (5 * doy + 2) / 153 = s) (low : 0 ≤ s) (high : s < 10) :
    (doy - (153 * s + 2) / 5 + 1).toNat ≤ daysInMonth year (s + 3).toNat := by
  interval_cases s <;> simp only [daysInMonth, Int.reduceAdd, Int.reduceToNat] <;> omega

theorem day_le_of_winter {year doy s : ℤ} (hs : (5 * doy + 2) / 153 = s) (low : 10 ≤ s) (high : doy ≤ 365)
    (leap : doy = 365 → isLeap year = true) : (doy - (153 * s + 2) / 5 + 1).toNat ≤ daysInMonth year (s - 9).toNat := by
  obtain rfl | rfl : s = 10 ∨ s = 11 := by omega
  · simp only [daysInMonth, Int.reduceSub, Int.reduceToNat]
    omega
  · simp only [daysInMonth, Int.reduceSub, Int.reduceToNat]
    split
    · omega
    · rename_i common
      have notLast : doy ≠ 365 := fun last => common (leap last)
      omega

/-- A date of the calendar, and the day it stands for. -/
structure IsDateOf (days : ℤ) (date : ℤ × ℕ × ℕ) : Prop where
  month_pos : 1 ≤ date.2.1
  month_le : date.2.1 ≤ 12
  day_pos : 1 ≤ date.2.2
  day_le : date.2.2 ≤ daysInMonth date.1 date.2.1
  days : daysFromCivil date.1 date.2.1 date.2.2 = days

theorem isDateOf_civilFromDays (days : ℤ) : IsDateOf days (civilFromDays days) := by
  obtain ⟨yLow, yHigh, doyLow, doyHigh, leap⟩ := @yearOfEra_spec ((days + 719468) % 146097) _ (by omega) (by omega) rfl
  simp only [civilFromDays]
  generalize hera : (days + 719468) / 146097 = era
  generalize hday : (days + 719468) % 146097 = day at *
  generalize hy : (day - day / 1460 + day / 36524 - day / 146096) / 365 = y at *
  generalize hdoy : day - (365 * y + y / 4 - y / 100) = doy at *
  generalize hs : (5 * doy + 2) / 153 = s
  clear hy
  have dayLow : 1 ≤ doy - (153 * s + 2) / 5 + 1 := by omega
  have eraOf : (y + era * 400) / 400 = era := by omega
  have yearOf : (y + era * 400) % 400 = y := by omega
  by_cases spring : s < 10
  · have late : ¬ s + 3 ≤ 2 := by omega
    have late' : ¬ (s + 3).toNat ≤ 2 := by omega
    simp only [spring, late, ↓reduceIte, Int.add_zero]
    refine ⟨by dsimp only; omega, by dsimp only; omega, by dsimp only; omega, day_le_of_spring hs (by omega) spring, ?_⟩
    simp only [daysFromCivil, late', ↓reduceIte, eraOf, yearOf]
    omega
  · have early : s - 9 ≤ 2 := by omega
    have early' : (s - 9).toNat ≤ 2 := by omega
    simp only [spring, early, ↓reduceIte]
    refine ⟨by dsimp only; omega, by dsimp only; omega, by dsimp only; omega,
      day_le_of_winter hs (by omega) doyHigh fun last => ?_, ?_⟩
    · obtain ⟨fourth, century⟩ := leap last
      simp only [isLeap, Bool.and_eq_true, Bool.or_eq_true, decide_eq_true_eq, bne_iff_ne]
      omega
    · simp only [daysFromCivil, early', ↓reduceIte, Int.add_sub_cancel, eraOf, yearOf]
      omega

/-! ### Numbers -/

/-- No digit stands at the head of a text. -/
def EndsDigits (rest : List Char) : Prop := ∀ c cs, rest = c :: cs → c.isDigit = false

theorem isBlank_digit {c : Char} (h : c.isDigit = true) : Text.isBlank c = false := by
  obtain ⟨low, high⟩ : 48 ≤ c.toNat ∧ c.toNat ≤ 57 := by
    simpa [Char.isDigit, UInt32.le_iff_toNat_le] using h
  simp only [Text.isBlank, Bool.or_eq_false_iff, Bool.and_eq_false_iff, decide_eq_false_iff_not]
  omega

theorem skipBlanks_cons {c : Char} {cs : List Char} (h : Text.isBlank c = false) : Text.skipBlanks (c :: cs) = c :: cs := by
  rw [Text.skipBlanks, List.dropWhile_cons_of_neg (by simp [h])]

theorem skipBlanks_digits {ds rest : List Char} (nonempty : ds ≠ []) (digits : ∀ c ∈ ds, c.isDigit = true) :
    Text.skipBlanks (ds ++ rest) = ds ++ rest := by
  obtain ⟨d, ds, rfl⟩ := List.exists_cons_of_ne_nil nonempty
  exact skipBlanks_cons (isBlank_digit (digits d (List.mem_cons_self ..)))

theorem length_padded {width n : ℕ} (some : 0 < width) (h : n < 10 ^ width) : (padded width n).length = width := by
  have := (Nat.length_toDigits_le_iff (n := n) (by decide : 1 < 10) some).2 h
  rw [padded, List.length_append, List.length_replicate]
  exact Nat.sub_add_cancel this

theorem padded_ne_nil (width n : ℕ) : padded width n ≠ [] :=
  List.append_ne_nil_of_right_ne_nil _ (Json.digitsOf_ne_nil n)

theorem isDigit_padded {width n : ℕ} {c : Char} (h : c ∈ padded width n) : c.isDigit = true := Json.isDigit_of_mem_zeros h

theorem foldl_digits (ds : List Char) : ds.foldl (fun acc c => acc * 10 + (c.toNat - 48)) 0 = Nat.ofDigitChars 10 ds 0 := by
  simp only [Nat.ofDigitChars, Nat.mul_comm 10]
  rfl

theorem takeWhile_take {width : ℕ} {ds rest : List Char} (digits : ∀ c ∈ ds, c.isDigit = true) (fits : ds.length ≤ width)
    (hr : EndsDigits rest) : ((ds ++ rest).take width).takeWhile Char.isDigit = ds := by
  rw [List.take_append, List.take_of_length_le fits, List.takeWhile_append_of_pos digits]
  cases rest with
  | nil => simp
  | cons c cs =>
    cases width - ds.length with
    | zero => simp
    | succ n => simp [hr c cs rfl]

theorem readNumber_padded {width k n : ℕ} {rest : List Char} (fits : (padded k n).length ≤ width) (hr : EndsDigits rest) :
    readNumber width (padded k n ++ rest) = some (n, rest) := by
  simp only [readNumber, takeWhile_take (fun _ => isDigit_padded) fits hr, foldl_digits, List.drop_left]
  rw [if_neg (by simpa using padded_ne_nil k n), padded, Json.ofDigitChars_zeros]

theorem readField_padded {n : ℕ} {rest : List Char} (h : n < 100) (hr : EndsDigits rest) :
    readField (padded 2 n ++ rest) = some (n, rest) := by
  rw [readField, skipBlanks_digits (padded_ne_nil 2 n) fun _ => isDigit_padded]
  exact readNumber_padded (length_padded (by decide) h).le hr

theorem readMark_cons {c : Char} {rest : List Char} (h : Text.isBlank c = false) : readMark c (c :: rest) = some rest := by
  rw [readMark, skipBlanks_cons h]
  exact if_pos rfl

theorem isDigit_head {k n : ℕ} {c : Char} {rest cs : List Char} (h : padded k n ++ rest = c :: cs) : c.isDigit = true := by
  obtain ⟨d, ds, hd⟩ := List.exists_cons_of_ne_nil (padded_ne_nil k n)
  rw [hd] at h
  exact (List.cons.inj h).1 ▸ isDigit_padded (hd ▸ List.mem_cons_self ..)

theorem readYear_writeYear {year : ℤ} {rest : List Char} (hr : EndsDigits rest) :
    readYear (writeYear year ++ rest) = some (year, rest) := by
  have signed : readNumber (padded 4 year.natAbs ++ rest).length (padded 4 year.natAbs ++ rest) = some (year.natAbs, rest) :=
    readNumber_padded (by simp) hr
  rw [writeYear]
  split_ifs with plain negative
  · have digits := @skipBlanks_digits _ rest (padded_ne_nil 4 year.toNat) fun _ => isDigit_padded
    have read := readNumber_padded (length_padded (n := year.toNat) (by decide : 0 < 4) (by omega)).le hr
    rw [readYear, digits]
    split
    · rename_i heq
      exact absurd (isDigit_head heq) (by decide)
    · rename_i heq
      exact absurd (isDigit_head heq) (by decide)
    · simp only [read, Option.map_some, Int.toNat_of_nonneg plain.1]
  · simp only [List.cons_append, readYear, skipBlanks_cons (by decide : Text.isBlank '-' = false), signed, Option.map_some,
      Option.some.injEq, Prod.mk.injEq, and_true]
    omega
  · simp only [List.cons_append, readYear, skipBlanks_cons (by decide : Text.isBlank '+' = false), signed, Option.map_some,
      Option.some.injEq, Prod.mk.injEq, and_true]
    omega

theorem endsDigits_cons {c : Char} {cs : List Char} (h : c.isDigit = false) : EndsDigits (c :: cs) := by
  rintro d ds ⟨⟩
  exact h

theorem readFraction_padded {width n : ℕ} (some : 0 < width) (short : width ≤ 9) (h : n < 10 ^ width) :
    readFraction ('.' :: padded width n ++ ['Z']) = Option.some (n * 10 ^ (9 - width), ['Z']) := by
  have length := length_padded some h
  have ends : EndsDigits ['Z'] := endsDigits_cons (by decide)
  have digits : (padded width n).isEmpty = false := by simpa using padded_ne_nil width n
  have rest : (padded width n ++ ['Z']).drop width = ['Z'] := List.drop_left' length
  have value : Nat.ofDigitChars 10 (padded width n) 0 = n := Json.ofDigitChars_zeros ..
  simp only [List.cons_append, readFraction, takeWhile_take (fun _ => isDigit_padded) (length.trans_le short) ends,
    foldl_digits, digits, length, rest, value, Bool.false_eq_true, ↓reduceIte]
  rfl

theorem readFraction_writeFraction {nanos : ℕ} (h : nanos < 10 ^ 9) :
    readFraction (writeFraction nanos ++ ['Z']) = some (nanos, ['Z']) := by
  rw [writeFraction]
  split_ifs with none milli micro
  · rw [none]
    rfl
  · rw [readFraction_padded (by decide) (by decide) (by omega)]
    exact congrArg (fun n => some (n, ['Z'])) (Nat.div_mul_cancel (Nat.dvd_of_mod_eq_zero milli))
  · rw [readFraction_padded (by decide) (by decide) (by omega)]
    exact congrArg (fun n => some (n, ['Z'])) (Nat.div_mul_cancel (Nat.dvd_of_mod_eq_zero micro))
  · rw [readFraction_padded (by decide) (by decide) h]
    simp

/-! ### Texts -/

/-- A point in time that the calendar of the texts has: the year is in range, and the nanoseconds run on past one second in
the last second of a minute only. -/
structure IsValid (t : Instant) : Prop where
  nanos : t.nanos < 10 ^ 9 ∨ t.nanos < 2 * 10 ^ 9 ∧ t.seconds % 60 = 59
  year_ge : -262143 ≤ (civilFromDays (t.seconds / 86400)).1
  year_le : (civilFromDays (t.seconds / 86400)).1 ≤ 262142

theorem endsDigits_writeFraction (nanos : ℕ) : EndsDigits (writeFraction nanos ++ ['Z']) := by
  rw [writeFraction]
  split_ifs <;> exact endsDigits_cons (by decide)

theorem daysInMonth_le (year : ℤ) (month : ℕ) : daysInMonth year month ≤ 31 := by
  unfold daysInMonth
  split <;> first | decide | (split <;> decide)

/-- A point in time is read back from its text. -/
theorem parse?_toString {t : Instant} (h : t.IsValid) : parse? t.toString = some t := by
  have date := isDateOf_civilFromDays (t.seconds / 86400)
  obtain ⟨nanos, yearLow, yearHigh⟩ := h
  have dash (cs : List Char) : EndsDigits ('-' :: cs) := endsDigits_cons (by decide)
  have mark (cs : List Char) : EndsDigits ('T' :: cs) := endsDigits_cons (by decide)
  have colon (cs : List Char) : EndsDigits (':' :: cs) := endsDigits_cons (by decide)
  have fraction := @readFraction_writeFraction (t.nanos % 1000000000) (by omega)
  have ends := endsDigits_writeFraction (t.nanos % 1000000000)
  rw [parse?, Instant.toString, String.toList_ofList, toChars]
  generalize civilFromDays (t.seconds / 86400) = c at *
  obtain ⟨year, month, day⟩ := c
  obtain ⟨monthPos, monthLe, dayPos, dayLe, days⟩ := date
  dsimp only at monthPos monthLe dayPos dayLe days yearLow yearHigh
  have dayMax := dayLe.trans (daysInMonth_le year month)
  generalize htime : (t.seconds % 86400).toNat = time
  have short : time < 86400 := by omega
  simp only [List.append_assoc, List.cons_append]
  refine Option.bind_eq_some_iff.2 ⟨_, readYear_writeYear (dash _), ?_⟩
  refine Option.bind_eq_some_iff.2 ⟨_, readMark_cons (by decide), ?_⟩
  refine Option.bind_eq_some_iff.2 ⟨_, readField_padded (show month < 100 by omega) (dash _), ?_⟩
  refine Option.bind_eq_some_iff.2 ⟨_, readMark_cons (by decide), ?_⟩
  refine Option.bind_eq_some_iff.2 ⟨_, readField_padded (show day < 100 by omega) (mark _), ?_⟩
  dsimp only
  rw [if_pos (Or.inl rfl)]
  refine Option.bind_eq_some_iff.2 ⟨_, rfl, ?_⟩
  refine Option.bind_eq_some_iff.2 ⟨_, readField_padded (show time / 3600 < 100 by omega) (colon _), ?_⟩
  refine Option.bind_eq_some_iff.2 ⟨_, readMark_cons (by decide), ?_⟩
  refine Option.bind_eq_some_iff.2 ⟨_, readField_padded (show time / 60 % 60 < 100 by omega) (colon _), ?_⟩
  refine Option.bind_eq_some_iff.2 ⟨_, readMark_cons (by decide), ?_⟩
  refine Option.bind_eq_some_iff.2 ⟨_, readField_padded (show time % 60 + t.nanos / 1000000000 < 100 by omega) ends, ?_⟩
  refine Option.bind_eq_some_iff.2 ⟨_, fraction, ?_⟩
  refine Option.bind_eq_some_iff.2 ⟨(0, []), rfl, ?_⟩
  dsimp only
  have second : time % 60 + t.nanos / 1000000000 ≤ 60 := by omega
  rw [if_pos ⟨rfl, monthPos, monthLe, dayPos, dayLe, by omega, by omega, second, by decide, yearLow, yearHigh⟩, days]
  have leap : (time % 60 + t.nanos / 1000000000) / 60 = t.nanos / 1000000000 := by omega
  have day : time / 3600 * 3600 + time / 60 % 60 * 60 + time % 60 = time := by omega
  rw [leap, Nat.add_sub_cancel, day, ← htime, Nat.mod_add_div']
  exact congrArg (fun s => some (Instant.mk s t.nanos)) (by omega)

theorem decoder_docOf {t u : Instant} (h : t.IsValid) {level : ℕ} :
    decoder (Json.docOf level t.toJson) = .ok u ↔ t = u := by
  have text : Json.Decoder.string (Json.docOf level t.toJson) = .ok t.toString := Json.string_docOf.2 rfl
  simp only [decoder, Json.Decoder.bind, bind_eq_ok, text]
  simp [parse?_toString h]

end StrategyHost.Instant
