import StrategyHost.Strategy.Basic

/-! # The registry

The strategies that can be loaded by identity, each with the schema of its parameters and the way it is built
from bound ones. `Registry.builtin` holds the strategies of the host. -/

namespace StrategyHost

structure Entry where
  identity : String
  description : String
  schema : Schema
  build : Bound → Except LoadError Strategy

instance : Inhabited Entry := ⟨⟨"", "", ⟨[], []⟩, fun _ => .error (.internal "")⟩⟩

abbrev Registry := List Entry

/-- A decimal constant `n / 10 ^ scale`. -/
def decimalConst (n scale : Nat) : Decimal := (Decimal.ofParts? false n scale).getD .zero

def momentumEntry : Entry where
  identity := "momentum"
  description := "RSI extremes confirmed by an EMA crossover"
  schema := {
    specs := [
      (ParamSpec.integer "rsi_period" 2 100 14).describe "RSI lookback",
      .integer "ema_fast_period" 2 200 9,
      .integer "ema_slow_period" 3 400 21,
      .decimal "rsi_overbought" (decimalConst 50 0) (decimalConst 100 0) (decimalConst 70 0),
      .decimal "rsi_oversold" (decimalConst 0 0) (decimalConst 50 0) (decimalConst 30 0),
      .decimal "base_position_size" (decimalConst 1 4) (decimalConst 1000 0) (decimalConst 1 1)]
    rules := [⟨"ema_fast_period", "ema_slow_period"⟩, ⟨"rsi_oversold", "rsi_overbought"⟩] }
  build b := do
    let rsiPeriod ← b.period "rsi_period"
    let fastPeriod ← b.period "ema_fast_period"
    let slowPeriod ← b.period "ema_slow_period"
    let overbought ← b.decimal "rsi_overbought"
    let oversold ← b.decimal "rsi_oversold"
    let positionSize ← b.decimal "base_position_size"
    return .momentum ⟨rsiPeriod, fastPeriod, slowPeriod, overbought, oversold, positionSize⟩

def crossoverEntry : Entry where
  identity := "ma_crossover"
  description := "Trade when the fast SMA crosses the slow SMA"
  schema := {
    specs := [
      .integer "fast_period" 1 200 5,
      .integer "slow_period" 2 500 20,
      .decimal "position_size" (decimalConst 1 4) (decimalConst 1000 0) (decimalConst 1 1)]
    rules := [⟨"fast_period", "slow_period"⟩] }
  build b := do
    let fastPeriod ← b.period "fast_period"
    let slowPeriod ← b.period "slow_period"
    let positionSize ← b.decimal "position_size"
    return .crossover ⟨fastPeriod, slowPeriod, positionSize⟩

def reversionEntry : Entry where
  identity := "mean_reversion"
  description := "Fade moves that stray too far from the rolling mean"
  schema := {
    specs := [
      .integer "window" 2 500 20,
      .decimal "entry_z" (decimalConst 5 1) (decimalConst 10 0) (decimalConst 2 0),
      .decimal "position_size" (decimalConst 1 4) (decimalConst 1000 0) (decimalConst 1 1),
      .boolean "allow_short" true]
    rules := [] }
  build b := do
    let window ← b.period "window"
    let entry ← b.decimal "entry_z"
    let positionSize ← b.decimal "position_size"
    let allowShort ← b.boolean "allow_short"
    return .reversion ⟨window, entry, positionSize, allowShort⟩

namespace Registry

def builtin : Registry := [momentumEntry, crossoverEntry, reversionEntry]

def get (r : Registry) (identity : String) : Except LoadError Entry :=
  match r.find? (·.identity == identity) with
  | some e => .ok e
  | none => .error (.unknownIdentity identity)

/-- The strategy of an identity with the parameters that were bound for it. -/
def build (r : Registry) (identity : String) (params : Params) : Except LoadError (Bound × Strategy) := do
  let entry ← r.get identity
  let bound ← entry.schema.bind params
  return (bound, ← entry.build bound)

end Registry

end StrategyHost
