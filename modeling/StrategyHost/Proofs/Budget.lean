import Mathlib.Algebra.Order.Field.Rat
import Mathlib.Tactic.Linarith
import StrategyHost.Config.Basic

/-!
# Budgets in fuel and ticks

CPU time is turned into fuel and wall-clock time into ticks of the deadline clock. The ticks are rounded up, and the tick that
already runs is granted on top. `large_iff` says when that makes a number that does not fit in 64 bits: with ticks of a millisecond
and the largest budget there is. No ticks are left then. Where it fits, a clock that never ticks early gives a budget its whole time
(`Paces.le_deadline`). Main statement: `budgets_covered`.
-/

namespace StrategyHost.Limits
variable {l : Limits} {wall : ℕ}

theorem saturate_mono {m n : ℕ} (h : m ≤ n) : saturate m ≤ saturate n := by
  unfold saturate
  omega

theorem fuelFor_mono {cpu more : ℕ} (h : cpu ≤ more) : l.fuelFor cpu ≤ l.fuelFor more :=
  saturate_mono (Nat.mul_le_mul_right _ h)

theorem tickMs_pos (l : Limits) : 0 < l.tickMs := Nat.le_max_right _ _

theorem tickMs_eq_one_iff : l.tickMs = 1 ↔ l.epochTickMs ≤ 1 := by
  unfold tickMs
  omega

/-! ### Ticks -/

/-- The ticks that a time takes up, the last of them perhaps in part. -/
def wholeTicks (l : Limits) (wall : ℕ) : ℕ := (wall + l.tickMs - 1) / l.tickMs

theorem le_wholeTicks_mul (l : Limits) (wall : ℕ) : wall ≤ l.wholeTicks wall * l.tickMs := by
  have positive := l.tickMs_pos
  have rounded := Nat.lt_div_mul_add (a := wall + l.tickMs - 1) positive
  rw [← wholeTicks] at rounded
  omega

theorem wholeTicks_mul_lt (l : Limits) (wall : ℕ) : l.wholeTicks wall * l.tickMs < wall + l.tickMs := by
  have positive := l.tickMs_pos
  have rounded := Nat.div_mul_le_self (wall + l.tickMs - 1) l.tickMs
  rw [← wholeTicks] at rounded
  omega

/-- Only the largest budget in ticks of a millisecond comes to a number that is too large: ticks of two milliseconds already
halve it. -/
theorem large_iff (word : wall < 2 ^ 64) : 2 ^ 64 ≤ l.wholeTicks wall + 1 ↔ l.epochTickMs ≤ 1 ∧ wall = 2 ^ 64 - 1 := by
  rw [← tickMs_eq_one_iff]
  have covered := l.le_wholeTicks_mul wall
  have high := l.wholeTicks_mul_lt wall
  constructor
  · intro large
    have single : l.tickMs = 1 := by
      by_contra longer
      have positive := l.tickMs_pos
      have many : (2 ^ 64 - 1) * l.tickMs ≤ l.wholeTicks wall * l.tickMs := Nat.mul_le_mul_right _ (by omega)
      omega
    rw [single] at high
    exact ⟨single, by omega⟩
  · rintro ⟨single, rfl⟩
    rw [single] at covered
    omega

theorem wholeTicks_le (l : Limits) (wall : ℕ) : l.wholeTicks wall ≤ wall := by
  have high := l.wholeTicks_mul_lt wall
  have grows : wall ≤ wall * l.tickMs := Nat.le_mul_of_pos_right wall l.tickMs_pos
  refine Nat.le_of_lt_succ (Nat.lt_of_mul_lt_mul_right (a := l.tickMs) ?_)
  rw [Nat.succ_mul]
  omega

theorem ticksFor_of_large (word : wall < 2 ^ 64) (large : 2 ^ 64 ≤ l.wholeTicks wall + 1) : l.ticksFor wall = 0 := by
  have exact : l.wholeTicks wall + 1 = 2 ^ 64 := Nat.le_antisymm (Nat.lt_of_le_of_lt (l.wholeTicks_le wall) word) large
  rw [ticksFor, ← wholeTicks, exact, Nat.mod_self]

theorem ticksFor_of_small (small : ¬ 2 ^ 64 ≤ l.wholeTicks wall + 1) : l.ticksFor wall = l.wholeTicks wall + 1 :=
  Nat.mod_eq_of_lt (Nat.lt_of_not_le small)

/-! ### The deadline -/

/-- The times, in milliseconds from the start of an invocation, at which a deadline clock ticks. The first tick may come at once;
from then on a tick takes its time, and may take longer. -/
structure Paces (l : Limits) (clock : ℕ → ℚ) : Prop where
  start : 0 ≤ clock 0
  tick : ∀ n, clock n + l.tickMs ≤ clock (n + 1)

theorem Paces.mul_le {clock : ℕ → ℚ} (h : l.Paces clock) (n : ℕ) : n * l.tickMs ≤ clock n := by
  induction n with
  | zero => simpa using h.start
  | succ n ih =>
    have next := h.tick n
    push_cast
    linarith

/-- The tick that a budget is granted on top makes up for the one that runs when an invocation starts. -/
theorem Paces.le_deadline {clock : ℕ → ℚ} {ticks : ℕ} (h : l.Paces clock) (covers : wall + l.tickMs ≤ ticks * l.tickMs) :
    wall ≤ clock (ticks - 1) := by
  have enough : wall ≤ (ticks - 1) * l.tickMs := by
    rw [Nat.sub_mul, Nat.one_mul]
    omega
  calc (wall : ℚ) ≤ ((ticks - 1 : ℕ) : ℚ) * l.tickMs := by exact_mod_cast enough
    _ ≤ clock (ticks - 1) := h.mul_le _

/-! ### Main statement -/

/-- Fuel is the product, as far as there are numbers for it, and grows with the budget. The number of ticks leaves the words for one
budget alone, the largest, where a tick is a millisecond; then none are left. Else they cover the budget and the running tick, less
than a tick too much, so that the deadline does not come before the budget has passed. -/
theorem budgets_covered (l : Limits) (cpu : ℕ) {wall : ℕ} (word : wall < 2 ^ 64) :
    l.fuelFor cpu = min (cpu * l.fuelPerMs) (2 ^ 64 - 1) ∧ (∀ more, cpu ≤ more → l.fuelFor cpu ≤ l.fuelFor more) ∧
      (2 ^ 64 ≤ l.wholeTicks wall + 1 ↔ l.epochTickMs ≤ 1 ∧ wall = 2 ^ 64 - 1) ∧
      (l.ticksFor wall = 0 ↔ l.epochTickMs ≤ 1 ∧ wall = 2 ^ 64 - 1) ∧
      (l.ticksFor wall ≠ 0 → wall + l.tickMs ≤ l.ticksFor wall * l.tickMs ∧ l.ticksFor wall * l.tickMs < wall + 2 * l.tickMs ∧
        ∀ clock, l.Paces clock → wall ≤ clock (l.ticksFor wall - 1)) := by
  have large := large_iff (l := l) word
  refine ⟨rfl, fun more h => fuelFor_mono h, large, ?_⟩
  by_cases overflows : 2 ^ 64 ≤ l.wholeTicks wall + 1
  · have none := ticksFor_of_large word overflows
    exact ⟨⟨fun _ => large.1 overflows, fun _ => none⟩, fun some => absurd none some⟩
  · rw [ticksFor_of_small overflows, ← large]
    have covered := l.le_wholeTicks_mul wall
    have high := l.wholeTicks_mul_lt wall
    have more : (l.wholeTicks wall + 1) * l.tickMs = l.wholeTicks wall * l.tickMs + l.tickMs := Nat.succ_mul ..
    have covers : wall + l.tickMs ≤ (l.wholeTicks wall + 1) * l.tickMs := by omega
    exact ⟨⟨nofun, fun h => absurd h overflows⟩, fun _ => ⟨covers, by omega, fun clock h => h.le_deadline covers⟩⟩

/-- The largest budget but one still has its ticks of a millisecond, and they are all that 64 bits can count. -/
theorem budgets_covered_largest :
    let l := { standard with epochTickMs := 0 }
    2 ^ 64 - 2 < 2 ^ 64 ∧ l.ticksFor (2 ^ 64 - 2) = 2 ^ 64 - 1 ∧ 2 ^ 64 - 2 + 1 ≤ (2 ^ 64 - 1) * 1 ∧
      ∀ clock, l.Paces clock → ((2 ^ 64 - 2 : ℕ) : ℚ) ≤ clock (2 ^ 64 - 1 - 1) := by
  intro l
  have counted : l.ticksFor (2 ^ 64 - 2) = 2 ^ 64 - 1 := by decide
  have word : 2 ^ 64 - 2 < 2 ^ 64 := by decide
  obtain ⟨covers, -, late⟩ := (budgets_covered l 0 word).2.2.2.2 (by rw [counted]; decide)
  rw [counted] at covers late
  exact ⟨word, counted, covers, late⟩

/-- An acceptable configuration may have ticks of a millisecond, and a budget may be the largest number there is. -/
theorem not_every_budget_covered : ¬ ∀ (c : Config) (wall : ℕ), c.fault? = none → wall < 2 ^ 64 →
    c.limits.wholeTicks wall + 1 < 2 ^ 64 ∧ wall + c.limits.tickMs ≤ c.limits.ticksFor wall * c.limits.tickMs := by
  intro always
  have covers := (always { Config.standard with limits := { standard with epochTickMs := 1 } } (2 ^ 64 - 1)
    (by decide) (by decide)).2
  exact absurd covers (by decide)

end StrategyHost.Limits
