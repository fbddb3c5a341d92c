import StrategyHost.Proofs.Binding
import StrategyHost.Proofs.Bound

/-! # The periods of built-in strategies

What a schema demands of two periods together cannot be read off either of their ranges. Whatever is built has kept it
(`Registry.isConsistent_of_build`). -/

namespace StrategyHost

/-! ### Bound periods -/

section
variable {s : Schema} {params : Params} {b : Bound} {name : String} {m n : ℕ} {min max default : ℤ}

theorem Bound.get?_of_period (h : b.period name = .ok n) : b.get? name = some (.integer n) := by
  obtain ⟨i, found, rest⟩ := bind_eq_ok.1 h
  split_ifs at rest with negative
  obtain rfl : i.toNat = n := Except.ok.inj rest
  rw [Bound.integer] at found
  split at found
  next i' held =>
    obtain rfl : i' = i := Except.ok.inj found
    rw [held, Int.toNat_of_nonneg (not_lt.1 negative)]
  next => cases found

theorem Bound.HoldsAll.range_of_period (h : b.HoldsAll s) (found : b.period name = .ok n)
    (declared : s.kind? name = some (.integer min max default)) : min ≤ n ∧ n ≤ max ∧ (n : ℤ) < 2 ^ 63 := by
  obtain ⟨v, held, admits⟩ := h.get? declared
  cases (Bound.get?_of_period found).symm.trans held
  exact admits

theorem LessThan.lt_of_violation? {r : LessThan} (kept : r.violation? b = none) (low : b.period r.lower = .ok m)
    (high : b.period r.upper = .ok n) (small : (m : ℤ) < 2 ^ 63 ∧ (n : ℤ) < 2 ^ 63) : m < n := by
  rw [violation?, Bound.get?_of_period low, Bound.get?_of_period high] at kept
  by_contra order
  have violated : (Decimal.ofInt n).le (Decimal.ofInt m) = true := by
    rw [Decimal.le_iff, Decimal.value_ofInt (by omega), Decimal.value_ofInt (by omega)]
    exact_mod_cast not_lt.1 order
  simp [ParamValue.asDecimal?, violated] at kept

theorem Schema.violation?_of_bind (h : s.bind params = .ok b) : ∀ r ∈ s.rules, r.violation? b = none := by
  obtain ⟨-, values, -, kept, rfl⟩ := Schema.bind_eq_ok.1 h
  exact List.findSome?_eq_none_iff.1 kept

end

/-! ### Strategies -/

/-- The periods of a strategy fit each other: the slower average is the one that is longer, and no window is empty. -/
def Strategy.IsConsistent : Strategy → Prop
  | momentum c => 0 < c.fastPeriod ∧ c.fastPeriod < c.slowPeriod
  | crossover c => c.fastPeriod < c.slowPeriod
  | reversion c => 0 < c.window

namespace Registry
variable {identity : String} {params : Params} {bound : Bound} {strategy : Strategy}

theorem isConsistent_momentum (holds : bound.HoldsAll momentumEntry.schema)
    (rules : ∀ r ∈ momentumEntry.schema.rules, r.violation? bound = none) (built : momentumEntry.build bound = .ok strategy) :
    strategy.IsConsistent := by
  simp only [momentumEntry, StrategyHost.bind_eq_ok] at built
  obtain ⟨_, -, fastPeriod, fast, slowPeriod, slow, _, -, _, -, _, -, done⟩ := built
  cases done
  obtain ⟨atLeast, -, small⟩ := holds.range_of_period fast rfl
  obtain ⟨-, -, small'⟩ := holds.range_of_period slow rfl
  have kept := rules ⟨"ema_fast_period", "ema_slow_period"⟩ (by simp [momentumEntry])
  have positive : 0 < fastPeriod := by omega
  exact ⟨positive, LessThan.lt_of_violation? kept fast slow ⟨small, small'⟩⟩

theorem isConsistent_crossover (holds : bound.HoldsAll crossoverEntry.schema)
    (rules : ∀ r ∈ crossoverEntry.schema.rules, r.violation? bound = none) (built : crossoverEntry.build bound = .ok strategy) :
    strategy.IsConsistent := by
  simp only [crossoverEntry, StrategyHost.bind_eq_ok] at built
  obtain ⟨fastPeriod, fast, slowPeriod, slow, _, -, done⟩ := built
  cases done
  obtain ⟨-, -, small⟩ := holds.range_of_period fast rfl
  obtain ⟨-, -, small'⟩ := holds.range_of_period slow rfl
  exact LessThan.lt_of_violation? (rules ⟨"fast_period", "slow_period"⟩ (by simp [crossoverEntry])) fast slow ⟨small, small'⟩

theorem isConsistent_reversion (holds : bound.HoldsAll reversionEntry.schema) (built : reversionEntry.build bound = .ok strategy) :
    strategy.IsConsistent := by
  simp only [reversionEntry, StrategyHost.bind_eq_ok] at built
  obtain ⟨window, length, _, -, _, -, _, -, done⟩ := built
  cases done
  obtain ⟨atLeast, -⟩ := holds.range_of_period length rfl
  have positive : 0 < window := by omega
  exact positive

/-- The periods of whatever the host builds fit each other. -/
theorem isConsistent_of_build (built : builtin.build identity params = .ok (bound, strategy)) : strategy.IsConsistent := by
  obtain ⟨entry, known, binds, builds⟩ := build_eq_ok.1 built
  have mem := mem_of_get known
  have holds := Schema.holdsAll_of_bind (isSound_builtin entry mem) binds
  have rules := Schema.violation?_of_bind binds
  simp only [builtin, List.mem_cons, List.not_mem_nil, or_false] at mem
  rcases mem with rfl | rfl | rfl
  · exact isConsistent_momentum holds rules builds
  · exact isConsistent_crossover holds rules builds
  · exact isConsistent_reversion holds builds

end Registry
end StrategyHost
