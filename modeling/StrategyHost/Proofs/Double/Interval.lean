import Mathlib.Algebra.Order.Field.Power
import Mathlib.Data.Rat.Cast.Order
import Mathlib.Tactic.Linarith
import Mathlib.Tactic.Positivity
import Mathlib.Tactic.Ring
import StrategyHost.Double.Shortest

/-! # Rounding intervals

The reals that round to a double form an interval (`Interval.Holds`), and `Interval.contains` decides it for decimals in
whole numbers. Main statement: `Parts.eq_of_holds`, the intervals of two doubles have no point in common. -/

namespace StrategyHost.Double

/-- The magnitudes that a double can have: a full significand, or a smaller one at the least exponent. -/
structure Parts.IsCanonical (p : Parts) : Prop where
  mantissa_lt : p.mantissa < 2 ^ 53
  exponent_ge : -1074 ≤ p.exponent
  full : -1074 < p.exponent → 2 ^ 52 ≤ p.mantissa

theorem isCanonical_of_parts? {x : Float} {p : Parts} (h : parts? x = some p) : p.IsCanonical := by
  simp only [parts?] at h
  split at h
  · cases h
  split at h <;> cases h <;> constructor <;> simp only <;> omega

theorem two_zpow_pos (e : ℤ) : (0 : ℚ) < 2 ^ e := by positivity

/-! ### Comparing binary and decimal numbers -/

def clearing (e u : ℤ) : ℚ := 2 ^ (-e).toNat * 10 ^ (-u).toNat

theorem clearing_pos (e u : ℤ) : 0 < clearing e u := by unfold clearing; positivity

theorem zpow_mul_pow_neg {b : ℚ} (hb : b ≠ 0) (e : ℤ) : b ^ e * b ^ (-e).toNat = b ^ e.toNat := by
  rw [← zpow_natCast, ← zpow_natCast, ← zpow_add₀ hb]
  congr 1
  omega

theorem binary_mul_clearing (a : ℕ) (e u : ℤ) : (a : ℚ) * 2 ^ e * clearing e u = (a * (scales e u).1 : ℕ) := by
  have h2 := zpow_mul_pow_neg (b := 2) (by norm_num) e
  simp only [scales, clearing]
  push_cast
  rw [← h2]
  ring

theorem decimal_mul_clearing (c : ℕ) (e u : ℤ) : (c : ℚ) * 10 ^ u * clearing e u = (c * (scales e u).2 : ℕ) := by
  have h10 := zpow_mul_pow_neg (b := 10) (by norm_num) u
  simp only [scales, clearing]
  push_cast
  rw [← h10]
  ring

theorem binary_le_decimal_iff (a c : ℕ) (e u : ℤ) :
    (a : ℚ) * 2 ^ e ≤ c * 10 ^ u ↔ a * (scales e u).1 ≤ c * (scales e u).2 := by
  rw [← mul_le_mul_iff_of_pos_right (clearing_pos e u), binary_mul_clearing, decimal_mul_clearing]
  exact_mod_cast Iff.rfl

theorem decimal_le_binary_iff (a c : ℕ) (e u : ℤ) :
    (c : ℚ) * 10 ^ u ≤ a * 2 ^ e ↔ c * (scales e u).2 ≤ a * (scales e u).1 := by
  rw [← mul_le_mul_iff_of_pos_right (clearing_pos e u), binary_mul_clearing, decimal_mul_clearing]
  exact_mod_cast Iff.rfl

theorem binary_lt_decimal_iff (a c : ℕ) (e u : ℤ) :
    (a : ℚ) * 2 ^ e < c * 10 ^ u ↔ a * (scales e u).1 < c * (scales e u).2 := by
  rw [← not_le, decimal_le_binary_iff, not_le]

theorem decimal_lt_binary_iff (a c : ℕ) (e u : ℤ) :
    (c : ℚ) * 10 ^ u < a * 2 ^ e ↔ c * (scales e u).2 < a * (scales e u).1 := by
  rw [← not_le, binary_le_decimal_iff, not_le]

/-! ### Points of an interval -/

/-- Whether a number lies in the interval, whose ends count when it is closed. -/
def Interval.Holds (i : Interval) (x : ℚ) : Prop :=
  if i.closed then i.low * 2 ^ i.exponent ≤ x ∧ x ≤ i.high * 2 ^ i.exponent
  else i.low * 2 ^ i.exponent < x ∧ x < i.high * 2 ^ i.exponent

theorem Interval.contains_iff (i : Interval) (c : ℕ) (u : ℤ) : i.contains c u = true ↔ i.Holds (c * 10 ^ u) := by
  unfold Interval.contains Interval.Holds
  by_cases closed : i.closed
  · simp only [closed, ↓reduceIte, binary_le_decimal_iff, decimal_le_binary_iff, decide_eq_true_iff]
  · simp only [closed, Bool.false_eq_true, ↓reduceIte, binary_lt_decimal_iff, decimal_lt_binary_iff, decide_eq_true_iff]

theorem Interval.Holds.low_le {i : Interval} {x : ℚ} (h : i.Holds x) : i.low * 2 ^ i.exponent ≤ x := by
  unfold Interval.Holds at h
  split at h
  · exact h.1
  · exact h.1.le

theorem Interval.Holds.le_high {i : Interval} {x : ℚ} (h : i.Holds x) : x ≤ i.high * 2 ^ i.exponent := by
  unfold Interval.Holds at h
  split at h
  · exact h.2
  · exact h.2.le

theorem Interval.Holds.lt_high {i : Interval} {x : ℚ} (h : i.Holds x) (open' : i.closed = false) :
    x < i.high * 2 ^ i.exponent := by
  simp only [Interval.Holds, open', Bool.false_eq_true, ↓reduceIte] at h
  exact h.2

theorem Interval.Holds.low_lt {i : Interval} {x : ℚ} (h : i.Holds x) (open' : i.closed = false) :
    i.low * 2 ^ i.exponent < x := by
  simp only [Interval.Holds, open', Bool.false_eq_true, ↓reduceIte] at h
  exact h.1

/-! ### Disjoint intervals -/

namespace Parts
variable {p q : Parts} {x : ℚ}

theorem low_pos (hp : 0 < p.mantissa) : 0 < p.interval.low := by
  simp only [interval]
  split <;> omega

theorem pos_of_holds (hp : 0 < p.mantissa) (hx : p.interval.Holds x) : 0 < x := by
  have low : (0 : ℚ) < p.interval.low := by exact_mod_cast low_pos hp
  have := two_zpow_pos p.interval.exponent
  exact lt_of_lt_of_le (by positivity) hx.low_le

/-- With one exponent the interval of the smaller significand ends where that of the larger begins, or before. If the
two touch, one of the significands is odd, and its interval is open. -/
theorem not_holds_of_mantissa_lt (hp : p.IsCanonical) (he : p.exponent = q.exponent) (hm : p.mantissa < q.mantissa)
    (hx : p.interval.Holds x) : ¬ q.interval.Holds x := by
  intro hy
  have hlow : p.interval.high + 4 * (q.mantissa - p.mantissa - 1) ≤ q.interval.low := by
    have := hp.full
    simp only [interval]
    split <;> omega
  have hexp : q.interval.exponent = p.interval.exponent := by simp only [interval, he]
  have unit := two_zpow_pos p.interval.exponent
  have below := hx.le_high
  have above := hy.low_le
  rw [hexp] at above
  have ends : (q.interval.low : ℚ) ≤ p.interval.high :=
    le_of_mul_le_mul_right (above.trans below) unit
  have ends' : q.interval.low ≤ p.interval.high := by exact_mod_cast ends
  have touch : q.interval.low = p.interval.high := by omega
  have next : q.mantissa = p.mantissa + 1 := by omega
  rcases Nat.mod_two_eq_zero_or_one p.mantissa with even | odd
  · have strict := hy.low_lt (by simp only [interval, decide_eq_false_iff_not]; omega)
    rw [hexp, touch] at strict
    exact absurd below (not_le.2 strict)
  · have strict := hx.lt_high (by simp only [interval, decide_eq_false_iff_not]; omega)
    rw [← touch] at strict
    exact absurd above (not_le.2 strict)

/-- A larger exponent comes with a full significand, and its interval begins where those before it end. -/
theorem not_holds_of_exponent_lt (hp : p.IsCanonical) (hq : q.IsCanonical) (he : p.exponent < q.exponent)
    (hx : p.interval.Holds x) : ¬ q.interval.Holds x := by
  intro hy
  have hge := hp.exponent_ge
  have hfull := hq.full (by omega)
  have hlow : 2 ^ 54 ≤ q.interval.low + 1 := by
    simp only [interval]
    split <;> omega
  have hhigh : p.interval.high + 2 ≤ 2 ^ 55 := by
    have := hp.mantissa_lt
    simp only [interval]
    omega
  have unit := two_zpow_pos p.interval.exponent
  have twice : (2 : ℚ) * 2 ^ p.interval.exponent ≤ 2 ^ q.interval.exponent := by
    rw [← zpow_one_add₀ (by norm_num)]
    exact zpow_le_zpow_right₀ (by norm_num) (by simp only [interval]; omega)
  have low : (2 ^ 54 : ℚ) - 1 ≤ q.interval.low := sub_le_iff_le_add.2 (by exact_mod_cast hlow)
  have high : (p.interval.high : ℚ) + 2 ≤ 2 ^ 55 := by exact_mod_cast hhigh
  have start : ((2 ^ 54 : ℚ) - 1) * (2 * 2 ^ p.interval.exponent) ≤ q.interval.low * 2 ^ q.interval.exponent :=
    mul_le_mul low twice (by positivity) (by positivity)
  have above := hy.low_le
  have below := hx.le_high
  have ends : ((2 ^ 55 : ℚ) - 2) * 2 ^ p.interval.exponent ≤ p.interval.high * 2 ^ p.interval.exponent := by linarith
  have last : (2 ^ 55 : ℚ) - 2 ≤ p.interval.high := le_of_mul_le_mul_right ends unit
  have last' : 2 ^ 55 ≤ p.interval.high + 2 := by exact_mod_cast sub_le_iff_le_add.1 last
  have odd : p.interval.closed = false := by
    simp only [interval, decide_eq_false_iff_not] at last' ⊢
    have := hp.mantissa_lt
    omega
  have strict := hx.lt_high odd
  linarith [mul_le_mul_of_nonneg_right (le_sub_iff_add_le.2 high) unit.le]

/-- No number rounds to two doubles. -/
theorem eq_of_holds (hp : p.IsCanonical) (hq : q.IsCanonical) (hx : p.interval.Holds x) (hy : q.interval.Holds x) :
    p = q := by
  rcases lt_trichotomy p.exponent q.exponent with he | he | he
  · exact absurd hy (not_holds_of_exponent_lt hp hq he hx)
  · rcases lt_trichotomy p.mantissa q.mantissa with hm | hm | hm
    · exact absurd hy (not_holds_of_mantissa_lt hp he hm hx)
    · cases p; cases q; simp_all
    · exact absurd hx (not_holds_of_mantissa_lt hq he.symm hm hy)
  · exact absurd hx (not_holds_of_exponent_lt hq hp he hy)

end Parts

end StrategyHost.Double
