import Mathlib.Data.Nat.Basic
import StrategyHost.Indicator

/-! # When indicators are ready

A new indicator has a value exactly from the price on that its warm-up names (`Indicator.isSome_output`). Each kind counts in a way
of its own: the index counts the changes between prices, the simple average keeps a window that slides once it is full, and the
exponential average starts on the price that ends its first period. -/

namespace StrategyHost

theorem counts_foldl {σ : Type} {push : σ → Decimal → σ} {Counts : ℕ → σ → Prop} {n : ℕ} {s : σ} (start : Counts n s)
    (step : ∀ n s price, Counts n s → Counts (n + 1) (push s price)) (prices : List Decimal) :
    Counts (n + prices.length) (prices.foldl push s) := by
  induction prices generalizing n s with
  | nil => exact start
  | cons price prices ih =>
    rw [List.length_cons, ← Nat.add_assoc, Nat.add_right_comm]
    exact ih (step n s price start)

/-! ### The relative strength index -/

namespace Rsi
variable {period n : ℕ} {r : Rsi}

/-- An index behind `n` prices. -/
structure Counts (period n : ℕ) (r : Rsi) : Prop where
  kept : r.period = period
  samples : r.samples = n

theorem Counts.push (h : Counts period n r) (price : Decimal) : Counts period (n + 1) (r.push price) := by
  rw [Rsi.push]
  cases r.previous with
  | none => exact ⟨h.kept, congrArg (· + 1) h.samples⟩
  | some before => exact ⟨h.kept, congrArg (· + 1) h.samples⟩

theorem Counts.foldl (h : Counts period 0 r) (prices : List Decimal) : Counts period prices.length (prices.foldl Rsi.push r) :=
  Nat.zero_add prices.length ▸ counts_foldl h (fun _ _ price counts => counts.push price) prices

theorem counts_new (period : ℕ) : Counts period 0 (new period) := ⟨rfl, rfl⟩

theorem Counts.isSome_output (h : Counts period n r) : r.output.isSome = true ↔ period + 1 ≤ n := by
  have counted : r.isReady = true ↔ period + 1 ≤ n := by
    rw [isReady, decide_eq_true_iff, h.kept, h.samples, Nat.succ_le_iff]
  rw [← counted, output]
  cases r.isReady <;> simp

end Rsi

/-! ### The simple moving average -/

namespace Sma
variable {period n : ℕ} {s : Sma}

/-- An average behind `n` prices. -/
structure Counts (period n : ℕ) (s : Sma) : Prop where
  kept : s.period = period
  length : s.window.length = min period n

theorem Counts.push (h : Counts period n s) (price : Decimal) : Counts period (n + 1) (s.push price) := by
  obtain ⟨rfl, length⟩ := h
  simp only [Sma.push]
  split
  next full =>
    rw [List.length_append, List.length_singleton] at full
    split
    next oldest rest shifted =>
      have same := congrArg List.length shifted
      rw [List.length_append, List.length_singleton, List.length_cons] at same
      exact ⟨rfl, by dsimp only; omega⟩
    next empty => simp at empty
  next room =>
    rw [List.length_append, List.length_singleton] at room
    refine ⟨rfl, ?_⟩
    rw [List.length_append, List.length_singleton]
    omega

theorem Counts.foldl (h : Counts period 0 s) (prices : List Decimal) : Counts period prices.length (prices.foldl Sma.push s) :=
  Nat.zero_add prices.length ▸ counts_foldl h (fun _ _ price counts => counts.push price) prices

theorem counts_new (period : ℕ) : Counts period 0 (new period) := ⟨rfl, (Nat.min_zero period).symm⟩

theorem Counts.isSome_output (h : Counts period n s) : s.output.isSome = true ↔ period ≤ n := by
  have full : s.isReady = true ↔ period ≤ n := by
    rw [isReady, decide_eq_true_iff, h.kept, h.length]
    omega
  rw [← full, output]
  cases s.isReady <;> simp

end Sma

/-! ### The exponential moving average -/

namespace Ema
variable {period n : ℕ} {e : Ema}

/-- An average behind `n` prices. No price ends a period without prices. -/
structure Counts (period n : ℕ) (e : Ema) : Prop where
  kept : e.period = period
  samples : e.samples = n
  started : e.current.isSome = true ↔ 0 < period ∧ period ≤ n

theorem Counts.push (h : Counts period n e) (price : Decimal) : Counts period (n + 1) (e.push price) := by
  obtain ⟨rfl, rfl, started⟩ := h
  simp only [Ema.push]
  cases value : e.current with
  | some before =>
    obtain ⟨positive, ended⟩ := started.1 (by rw [value]; rfl)
    exact ⟨rfl, rfl, iff_of_true rfl ⟨positive, Nat.le_succ_of_le ended⟩⟩
  | none =>
    have before : ¬ (0 < e.period ∧ e.period ≤ e.samples) := by
      rw [← started, value]
      exact Bool.false_ne_true
    refine ⟨rfl, rfl, ?_⟩
    dsimp only
    split
    next ends => exact iff_of_true rfl (by omega)
    next other => exact iff_of_false Bool.false_ne_true (by omega)

theorem Counts.foldl (h : Counts period 0 e) (prices : List Decimal) : Counts period prices.length (prices.foldl Ema.push e) :=
  Nat.zero_add prices.length ▸ counts_foldl h (fun _ _ price counts => counts.push price) prices

theorem counts_new (period : ℕ) : Counts period 0 (new period) :=
  ⟨rfl, rfl, iff_of_false Bool.false_ne_true (by omega)⟩

theorem Counts.isSome_output (h : Counts period n e) (positive : 0 < period) : e.output.isSome = true ↔ period ≤ n := by
  rw [output, Option.isSome_map, h.started]
  exact and_iff_right positive

end Ema

/-! ### All of them -/

namespace Indicator
variable {i : Indicator}

/-- An indicator that has seen no price yet, of a period that its kind has a value for. -/
def IsNew : Indicator → Prop
  | rsi r => r = .new r.period
  | sma s => s = .new s.period
  | ema e => e = .new e.period ∧ 0 < e.period

/-- A new indicator has a value just when its warm-up is over. -/
theorem isSome_output (fresh : i.IsNew) (prices : List Decimal) :
    (prices.foldl push i).output.isSome = true ↔ i.warmup ≤ prices.length := by
  cases i with
  | rsi r =>
    rw [List.foldl_hom rsi (fun _ _ => rfl)]
    exact (Rsi.Counts.foldl (fresh ▸ Rsi.counts_new _) prices).isSome_output
  | sma s =>
    rw [List.foldl_hom sma (fun _ _ => rfl)]
    exact (Sma.Counts.foldl (fresh ▸ Sma.counts_new _) prices).isSome_output
  | ema e =>
    obtain ⟨fresh, positive⟩ := fresh
    rw [List.foldl_hom ema (fun _ _ => rfl)]
    exact (Ema.Counts.foldl (fresh ▸ Ema.counts_new _) prices).isSome_output positive

end Indicator
end StrategyHost
