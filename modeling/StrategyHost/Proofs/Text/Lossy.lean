import Mathlib.Data.String.Basic
import StrategyHost.Text.Lossy

/-! # How large decoded text is

Decoding makes bytes no fewer (`length_le_utf8ByteSize_decodeLossy`) and at most three times as many
(`utf8ByteSize_decodeLossy_le`), as a replacement takes three bytes in place of one to three. Nothing is replaced in text that is
well-formed (`decodeLossy_toUTF8`). -/

namespace StrategyHost.Text
open String

theorem toNat_val_ofNat {n : ℕ} (h : n.isValidChar) : (Char.ofNat n).val.toNat = n := by
  rw [Char.ofNat, dif_pos h]
  rfl

theorem utf8Size_ofNat {n : ℕ} (h : n.isValidChar) :
    (Char.ofNat n).utf8Size = if n ≤ 0x7f then 1 else if n ≤ 0x7ff then 2 else if n ≤ 0xffff then 3 else 4 := by
  have code := toNat_val_ofNat h
  simp [Char.utf8Size, UInt32.le_iff_toNat_le, code]

/-! ### Characters that are begun -/

namespace Partial

/-- The least code that the character may still have. -/
def least (p : Partial) : ℕ := (p.code * 64 + (p.low.toNat - 0x80)) * 64 ^ (p.missing - 1)

/-- What all codes that the character may still have are below. -/
def beyond (p : Partial) : ℕ := (p.code * 64 + (p.high.toNat - 0x80) + 1) * 64 ^ (p.missing - 1)

/-- So many bytes of the character have been read, and it will have as many as its size is, whichever it is. -/
structure Awaits (p : Partial) (seen : ℕ) : Prop where
  begun : 1 ≤ seen
  missing : 1 ≤ p.missing
  total : seen + p.missing ≤ 4
  low : 0x80 ≤ p.low.toNat
  high : p.high.toNat ≤ 0xbf
  size : ∀ code, p.least ≤ code → code < p.beyond → (Char.ofNat code).utf8Size = seen + p.missing

end Partial

/-- A first byte leaves the character those codes that need as many bytes as it says. -/
theorem awaits_sequenceOf? {b low high : UInt8} {n : ℕ} (h : sequenceOf? b = some (n, low, high)) :
    Partial.Awaits ⟨b.toNat % 2 ^ (6 - n), n, low, high⟩ 1 := by
  have awaits {n : ℕ} {low high : UInt8} (bounds : (1 ≤ n ∧ 1 + n ≤ 4) ∧ 0x80 ≤ low.toNat ∧ high.toNat ≤ 0xbf)
      (size : ∀ code, (b.toNat % 2 ^ (6 - n) * 64 + (low.toNat - 0x80)) * 64 ^ (n - 1) ≤ code →
        code < (b.toNat % 2 ^ (6 - n) * 64 + (high.toNat - 0x80) + 1) * 64 ^ (n - 1) → (Char.ofNat code).utf8Size = 1 + n) :
      Partial.Awaits ⟨b.toNat % 2 ^ (6 - n), n, low, high⟩ 1 :=
    ⟨Nat.le_refl 1, bounds.1.1, bounds.1.2, bounds.2.1, bounds.2.2, size⟩
  have size {code n : ℕ} (valid : code.isValidChar)
      (h : (if code ≤ 0x7f then 1 else if code ≤ 0x7ff then 2 else if code ≤ 0xffff then 3 else 4) = 1 + n) :
      (Char.ofNat code).utf8Size = 1 + n := (utf8Size_ofNat valid).trans h
  unfold sequenceOf? at h
  simp only [UInt8.le_iff_toNat_le, Bool.and_eq_true, decide_eq_true_eq, beq_iff_eq, ← UInt8.toNat_inj, UInt8.reduceToNat] at h
  -- the ranges of the second byte keep the codes clear of the surrogates and of what has a shorter form
  split_ifs at h <;> cases h <;> refine awaits (by decide) fun code least beyond => size ?_ ?_ <;>
    simp at least beyond
  all_goals first | (unfold Nat.isValidChar; omega) | (split_ifs <;> omega)

theorem utf8Size_replacement : replacement.utf8Size = 3 := by decide

theorem beginChar_spec (b : UInt8) :
    (∃ c, beginChar replacement b = .error c ∧ 1 ≤ c.utf8Size ∧ c.utf8Size ≤ 3) ∨
      ∃ p, beginChar replacement b = .ok p ∧ p.Awaits 1 := by
  unfold beginChar
  split
  · refine .inl ⟨_, rfl, Char.utf8Size_pos _, ?_⟩
    rename_i ascii
    simp only [UInt8.lt_iff_toNat_lt, UInt8.reduceToNat] at ascii
    rw [utf8Size_ofNat (.inl (by omega)), if_pos (by omega)]
    decide
  · split
    · exact .inr ⟨_, rfl, awaits_sequenceOf? ‹_›⟩
    · exact .inl ⟨_, rfl, by decide, by decide⟩

namespace Partial.Awaits
variable {p : Partial} {seen : ℕ} {b : UInt8}

theorem bounds (h : p.Awaits seen) (low : p.low ≤ b) (high : b ≤ p.high) :
    p.least ≤ (p.code * 64 + b.toNat % 64) * 64 ^ (p.missing - 1) ∧
      (p.code * 64 + b.toNat % 64 + 1) * 64 ^ (p.missing - 1) ≤ p.beyond := by
  have := h.low
  have := h.high
  rw [UInt8.le_iff_toNat_le] at low high
  exact ⟨Nat.mul_le_mul_right _ (by omega), Nat.mul_le_mul_right _ (by omega)⟩

theorem utf8Size (h : p.Awaits seen) (low : p.low ≤ b) (high : b ≤ p.high) (last : p.missing ≤ 1) :
    (Char.ofNat (p.code * 64 + b.toNat % 64)).utf8Size = seen + 1 := by
  obtain ⟨least, beyond⟩ := h.bounds low high
  have one : p.missing = 1 := Nat.le_antisymm last h.missing
  rw [one, Nat.sub_self, Nat.pow_zero, Nat.mul_one] at least beyond
  exact one ▸ h.size _ least beyond

theorem next (h : p.Awaits seen) (low : p.low ≤ b) (high : b ≤ p.high) (more : ¬ p.missing ≤ 1) :
    Awaits ⟨p.code * 64 + b.toNat % 64, p.missing - 1, 0x80, 0xbf⟩ (seen + 1) := by
  obtain ⟨least, beyond⟩ := h.bounds low high
  obtain ⟨m, hm⟩ : ∃ m, p.missing - 1 = m + 1 := ⟨p.missing - 2, by omega⟩
  have total := h.total
  have missing : seen + p.missing = seen + 1 + (m + 1) := by omega
  -- all continuations are open again, so the codes left are those of the new prefix
  have least' (code : ℕ) : Partial.least ⟨code, m + 1, 0x80, 0xbf⟩ = code * 64 ^ (m + 1) := by
    rw [Partial.least, Nat.pow_succ', ← Nat.mul_assoc]
    simp only [UInt8.reduceToNat, Nat.sub_self, Nat.add_zero, Nat.add_sub_cancel]
  have beyond' (code : ℕ) : Partial.beyond ⟨code, m + 1, 0x80, 0xbf⟩ = (code + 1) * 64 ^ (m + 1) := by
    rw [Partial.beyond, Nat.pow_succ', ← Nat.mul_assoc, Nat.succ_mul code]
    simp only [UInt8.reduceToNat, Nat.add_sub_cancel, Nat.reduceSub, Nat.add_assoc, Nat.reduceAdd]
  rw [hm] at least beyond ⊢
  refine ⟨Nat.le_add_left _ _, Nat.le_add_left _ _, missing ▸ total, Nat.le_refl _, Nat.le_refl _, fun code above below => ?_⟩
  rw [least'] at above
  rw [beyond'] at below
  exact missing ▸ h.size code (least.trans above) (below.trans_le beyond)

end Partial.Awaits

theorem utf8Len_decodeFrom (bs : List UInt8) :
    (bs.length ≤ utf8Len (decodeFrom replacement none bs) ∧ utf8Len (decodeFrom replacement none bs) ≤ 3 * bs.length) ∧
      ∀ p seen, Partial.Awaits p seen → seen + bs.length ≤ utf8Len (decodeFrom replacement (some p) bs) ∧
        utf8Len (decodeFrom replacement (some p) bs) ≤ 3 * (seen + bs.length) := by
  induction bs with
  | nil =>
    refine ⟨⟨Nat.le_refl 0, Nat.le_refl 0⟩, fun p seen h => ?_⟩
    have := h.begun
    have := h.missing
    have := h.total
    simp only [decodeFrom, utf8Len_cons, utf8Len_nil, utf8Size_replacement, List.length_nil]
    omega
  | cons b bs ih =>
    obtain ⟨fresh, begun⟩ := ih
    refine ⟨?_, fun p seen h => ?_⟩
    · rw [decodeFrom]
      rcases beginChar_spec b with ⟨c, first, low, high⟩ | ⟨p, first, h⟩
      · rw [first]
        simp only [utf8Len_cons, List.length_cons]
        omega
      · have := begun p 1 h
        rw [first]
        simp only [List.length_cons]
        omega
    · have := h.begun
      have := h.missing
      have := h.total
      rw [decodeFrom]
      split
      · rename_i within
        rw [Bool.and_eq_true, decide_eq_true_eq, decide_eq_true_eq] at within
        dsimp only
        split
        · have := h.utf8Size within.1 within.2 ‹_›
          simp only [utf8Len_cons, List.length_cons]
          omega
        · have := begun _ _ (h.next within.1 within.2 ‹_›)
          simp only [List.length_cons]
          omega
      · rcases beginChar_spec b with ⟨c, first, low, high⟩ | ⟨q, first, hq⟩
        · rw [first]
          simp only [utf8Len_cons, List.length_cons, utf8Size_replacement]
          omega
        · have := begun q 1 hq
          rw [first]
          simp only [utf8Len_cons, List.length_cons, utf8Size_replacement]
          omega

theorem length_le_utf8ByteSize_decodeLossy (bs : List UInt8) : bs.length ≤ (decodeLossy bs).utf8ByteSize := by
  rw [decodeLossy, utf8ByteSize_ofList]
  exact (utf8Len_decodeFrom bs).1.1

theorem utf8ByteSize_decodeLossy_le (bs : List UInt8) : (decodeLossy bs).utf8ByteSize ≤ 3 * bs.length := by
  rw [decodeLossy, utf8ByteSize_ofList]
  exact (utf8Len_decodeFrom bs).1.2

/-! ### Well-formed text -/

section
variable {mark : Char} {p : Partial} {b s : UInt8} {bs : List UInt8}

theorem decodeFrom_last (one : p.missing = 1) (low : p.low ≤ b) (high : b ≤ p.high) :
    decodeFrom mark (some p) (b :: bs) = Char.ofNat (p.code * 64 + b.toNat % 64) :: decodeFrom mark none bs := by
  rw [decodeFrom]
  simp [low, high, one]

theorem decodeFrom_more {m : ℕ} (more : p.missing = m + 2) (low : p.low ≤ b) (high : b ≤ p.high) :
    decodeFrom mark (some p) (b :: bs) = decodeFrom mark (some ⟨p.code * 64 + b.toNat % 64, m + 1, 0x80, 0xbf⟩) bs := by
  rw [decodeFrom]
  simp [low, high, more]

theorem sequenceOf?_eq_some {n : ℕ} (tail : 0x80 ≤ s.toNat ∧ s.toNat ≤ 0xbf)
    (h : (n = 1 ∧ 0xc2 ≤ b.toNat ∧ b.toNat ≤ 0xdf) ∨
      (n = 2 ∧ 0xe0 ≤ b.toNat ∧ b.toNat ≤ 0xef ∧ (b.toNat = 0xe0 → 0xa0 ≤ s.toNat) ∧ (b.toNat = 0xed → s.toNat ≤ 0x9f)) ∨
      (n = 3 ∧ 0xf0 ≤ b.toNat ∧ b.toNat ≤ 0xf4 ∧ (b.toNat = 0xf0 → 0x90 ≤ s.toNat) ∧ (b.toNat = 0xf4 → s.toNat ≤ 0x8f))) :
    ∃ low high, sequenceOf? b = some (n, low, high) ∧ low ≤ s ∧ s ≤ high := by
  unfold sequenceOf?
  simp only [UInt8.le_iff_toNat_le, Bool.and_eq_true, decide_eq_true_eq, beq_iff_eq, ← UInt8.toNat_inj, UInt8.reduceToNat]
  split_ifs
  all_goals
    first
    | omega
    | (obtain rfl : n = 1 := by omega
       exact ⟨_, _, rfl, by simp; omega, by simp; omega⟩)
    | (obtain rfl : n = 2 := by omega
       exact ⟨_, _, rfl, by simp; omega, by simp; omega⟩)
    | (obtain rfl : n = 3 := by omega
       exact ⟨_, _, rfl, by simp; omega, by simp; omega⟩)

theorem decodeFrom_first (big : 0x80 ≤ b.toNat) {n : ℕ} {low high : UInt8} (h : sequenceOf? b = some (n, low, high)) :
    decodeFrom mark none (b :: bs) = decodeFrom mark (some ⟨b.toNat % 2 ^ (6 - n), n, low, high⟩) bs := by
  have notAscii : ¬ b < 0x80 := by
    simp only [UInt8.lt_iff_toNat_lt, UInt8.reduceToNat]
    omega
  rw [decodeFrom, beginChar, if_neg notAscii, h]

theorem decodeFrom_utf8EncodeChar (c : Char) (bs : List UInt8) :
    decodeFrom mark none (utf8EncodeChar c ++ bs) = c :: decodeFrom mark none bs := by
  have code : Char.ofNat c.val.toNat = c := Char.ofNat_toNat c
  have valid : c.val.toNat < 0xd800 ∨ 0xdfff < c.val.toNat ∧ c.val.toNat < 0x110000 := c.valid
  have byte {k : ℕ} (h : k < 256) : (UInt8.ofNat k).toNat = k := UInt8.toNat_ofNat_of_lt' h
  unfold utf8EncodeChar
  revert code valid
  generalize c.val.toNat = n
  intro code valid
  dsimp only
  have reassembles {k : ℕ} (h : k = n) : Char.ofNat k = c := h ▸ code
  have tail (k : ℕ) : 0x80 ≤ (UInt8.ofNat (k % 64 + 128)).toNat ∧ (UInt8.ofNat (k % 64 + 128)).toNat ≤ 0xbf := by
    rw [byte (by omega)]
    omega
  have inside (k : ℕ) : (0x80 : UInt8) ≤ UInt8.ofNat (k % 64 + 128) ∧ UInt8.ofNat (k % 64 + 128) ≤ 0xbf := by
    simpa only [UInt8.le_iff_toNat_le, UInt8.reduceToNat] using tail k
  split_ifs with one two three
  · have ascii : UInt8.ofNat n < 0x80 := by
      rw [UInt8.lt_iff_toNat_lt, byte (by omega)]
      simp only [UInt8.reduceToNat]
      omega
    rw [List.singleton_append, decodeFrom, beginChar, if_pos ascii, byte (by omega), code]
  · have first := byte (k := n / 64 % 32 + 192) (by omega)
    obtain ⟨low, high, opens, atLeast, atMost⟩ := sequenceOf?_eq_some (b := UInt8.ofNat (n / 64 % 32 + 192)) (tail n)
      (.inl ⟨rfl, by omega, by omega⟩)
    rw [List.cons_append, List.singleton_append, decodeFrom_first (by omega) opens, decodeFrom_last rfl atLeast atMost, first,
      byte (by omega)]
    simp only [Nat.reduceSub, Nat.reducePow]
    rw [reassembles (by omega)]
  · have first := byte (k := n / 4096 % 16 + 224) (by omega)
    have second := byte (k := n / 64 % 64 + 128) (by omega)
    obtain ⟨low, high, opens, atLeast, atMost⟩ :=
      sequenceOf?_eq_some (b := UInt8.ofNat (n / 4096 % 16 + 224)) (tail (n / 64)) (.inr (.inl ⟨rfl, by omega, by omega, by omega, by omega⟩))
    rw [List.cons_append, List.cons_append, List.singleton_append, decodeFrom_first (by omega) opens,
      decodeFrom_more rfl atLeast atMost, decodeFrom_last rfl (inside n).1 (inside n).2, first, second, byte (by omega)]
    simp only [Nat.reduceSub, Nat.reducePow]
    rw [reassembles (by omega)]
  · have first := byte (k := n / 262144 % 8 + 240) (by omega)
    have second := byte (k := n / 4096 % 64 + 128) (by omega)
    have third := byte (k := n / 64 % 64 + 128) (by omega)
    obtain ⟨low, high, opens, atLeast, atMost⟩ :=
      sequenceOf?_eq_some (b := UInt8.ofNat (n / 262144 % 8 + 240)) (tail (n / 4096)) (.inr (.inr ⟨rfl, by omega, by omega, by omega, by omega⟩))
    rw [List.cons_append, List.cons_append, List.cons_append, List.singleton_append, decodeFrom_first (by omega) opens,
      decodeFrom_more rfl atLeast atMost, decodeFrom_more rfl (inside (n / 64)).1 (inside (n / 64)).2,
      decodeFrom_last rfl (inside n).1 (inside n).2, first, second, third, byte (by omega)]
    simp only [Nat.reduceSub, Nat.reducePow]
    rw [reassembles (by omega)]

end

theorem decodeFrom_toUTF8 (mark : Char) (s : String) : decodeFrom mark none s.toUTF8.data.toList = s.toList := by
  have chars (cs : List Char) : decodeFrom mark none (cs.flatMap utf8EncodeChar) = cs := by
    induction cs with
    | nil => rfl
    | cons c cs ih => rw [List.flatMap_cons, decodeFrom_utf8EncodeChar, ih]
  have bytes : s.toUTF8.data.toList = s.toList.flatMap utf8EncodeChar := by
    have encoded : s.toUTF8 = (s.toList.flatMap utf8EncodeChar).toByteArray := by
      conv_lhs => rw [← ofList_toList (s := s)]
      exact toByteArray_ofList
    rw [encoded, List.toList_data_toByteArray]
  rw [bytes, chars]

/-- Text in UTF-8 is decoded to itself. -/
theorem decodeLossy_toUTF8 (s : String) : decodeLossy s.toUTF8.data.toList = s := by
  rw [decodeLossy, decodeFrom_toUTF8, ofList_toList]

end StrategyHost.Text
