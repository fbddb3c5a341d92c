import StrategyHost.Indicator
import StrategyHost.Schema
import StrategyHost.Session

/-! # Built-in strategies

The three strategies that are part of the host: momentum, a crossover of moving averages, and mean reversion.
`Strategy.warmup` is the number of candles that each needs; with fewer it fails and with as many it answers. -/

namespace StrategyHost

/-- Buys when the market is oversold while the fast average leads, sells in the mirrored case. -/
structure Momentum where
  rsiPeriod : Nat
  fastPeriod : Nat
  slowPeriod : Nat
  overbought : Decimal
  oversold : Decimal
  positionSize : Decimal
deriving DecidableEq, Repr, Inhabited

/-- Trades when the fast average crosses the slow one. -/
structure Crossover where
  fastPeriod : Nat
  slowPeriod : Nat
  positionSize : Decimal
deriving DecidableEq, Repr, Inhabited

/-- Trades against moves that stray too far from the mean of a window. -/
structure Reversion where
  window : Nat
  entry : Decimal
  positionSize : Decimal
  allowShort : Bool
deriving DecidableEq, Repr, Inhabited

inductive Strategy where
  | momentum (c : Momentum)
  | crossover (c : Crossover)
  | reversion (c : Reversion)
deriving DecidableEq, Repr, Inhabited

namespace Strategy

def name : Strategy → String
  | momentum _ => "momentum"
  | crossover _ => "ma_crossover"
  | reversion _ => "mean_reversion"

def warmup : Strategy → Nat
  | momentum c => max (c.rsiPeriod + 1) c.slowPeriod
  | crossover c => c.slowPeriod + 1
  | reversion c => c.window

end Strategy

namespace Run

def report {α : Type} (e : StrategyError) : Run α := fail e.toRunError

end Run

def SignalSet.single (data : MarketData) (side : Side) (quantity : Decimal) (confidence : Float)
    (reason : String) : SignalSet :=
  ⟨[⟨data.symbol, side, quantity, confidence, some reason⟩], []⟩

namespace Momentum

structure State where
  rsi : Rsi
  fast : Ema
  slow : Ema

def start (c : Momentum) : State := ⟨.new c.rsiPeriod, .new c.fastPeriod, .new c.slowPeriod⟩

def State.push (s : State) (price : Decimal) : State :=
  ⟨s.rsi.push price, s.fast.push price, s.slow.push price⟩

def side? (c : Momentum) (rsi fast slow : Decimal) : Option Side :=
  if rsi.lt c.oversold && slow.lt fast then some .buy
  else if c.overbought.lt rsi && fast.lt slow then some .sell
  else none

def decide (c : Momentum) (data : MarketData) (rsi fast slow : Decimal) : Run SignalSet :=
  let shown := (rsi.roundTo 2).toString
  match c.side? rsi fast slow with
  | some side => pure (.single data side c.positionSize 0.8 s!"rsi={shown}")
  | none => do
    Run.log s!"no signal: rsi={shown} fast={(fast.roundTo 2).toString} slow={(slow.roundTo 2).toString}"
    return .empty

/-- The indicators behind all candles; each candle is a checkpoint. -/
def fold (s : State) : List Candle → Run State
  | [] => pure s
  | k :: ks => do
    Run.checkpoint
    fold (s.push k.close) ks

def signals (c : Momentum) (data : MarketData) : Run SignalSet := do
  let s ← fold c.start data.candles
  match s.rsi.output, s.fast.output, s.slow.output with
  | some rsi, some fast, some slow => c.decide data rsi fast slow
  | _, _, _ => Run.report (.computation "indicators not ready")

end Momentum

namespace Crossover

structure State where
  fast : Sma
  slow : Sma
  previous : Option Decimal
  current : Option Decimal

def start (c : Crossover) : State := ⟨.new c.fastPeriod, .new c.slowPeriod, none, none⟩

/-- Takes a price; a spread that is out of range stops the invocation. -/
def State.push (s : State) (price : Decimal) : Run State := do
  let fast := s.fast.push price
  let slow := s.slow.push price
  match fast.output, slow.output with
  | some f, some g =>
    match f.sub? g with
    | some spread => return ⟨fast, slow, s.current, some spread⟩
    | none => throw .overflow
  | _, _ => return { s with fast := fast, slow := slow }

def side? (previous current : Decimal) : Option Side :=
  if previous.le .zero && Decimal.zero.lt current then some .buy
  else if Decimal.zero.le previous && current.lt .zero then some .sell
  else none

def fold (s : State) : List Candle → Run State
  | [] => pure s
  | k :: ks => do
    Run.checkpoint
    fold (← s.push k.close) ks

def signals (c : Crossover) (data : MarketData) : Run SignalSet := do
  let s ← fold c.start data.candles
  match s.previous, s.current with
  | some previous, some current =>
    match side? previous current with
    | some side =>
      return .single data side c.positionSize 0.6
        s!"sma spread {(previous.roundTo 4).toString} -> {(current.roundTo 4).toString}"
    | none => return .empty
  | _, _ => Run.report (.computation "moving averages not ready")

end Crossover

namespace Reversion

def side? (c : Reversion) (z : Float) : Option Side :=
  let entry := c.entry.toFloat
  if z ≤ -entry then some .buy
  else if entry ≤ z ∧ c.allowShort then some .sell
  else none

/-- Full confidence at twice the distance at which a position opens. -/
def confidence (c : Reversion) (z : Float) : Float :=
  let x := z.abs / (2.0 * c.entry.toFloat)
  if 1.0 < x then 1.0 else x

def signals (c : Reversion) (data : MarketData) : Run SignalSet := do
  Run.checkpoint
  let closes := data.closes
  let window := closes.drop (closes.length - c.window)
  match meanAndDeviation window, window.getLast? with
  | some (mean, deviation), some last =>
    if deviation == 0.0 then return .empty
    else
      let z := (last.toFloat - mean) / deviation
      match c.side? z with
      | some side =>
        let shown := String.ofList (Double.fixed 2 z)
        return .single data side c.positionSize (c.confidence z) s!"z={shown}"
      | none => return .empty
  | _, _ => Run.report (.computation "empty window")

end Reversion

namespace Strategy

/-- The signals of a strategy on data that are long enough. -/
def signals (s : Strategy) (data : MarketData) : Run SignalSet :=
  if data.candles.length < s.warmup then
    Run.report (.insufficientData s.warmup data.candles.length)
  else
    match s with
    | momentum c => c.signals data
    | crossover c => c.signals data
    | reversion c => c.signals data

/-- The capabilities that every built-in strategy asks for. -/
def requested : Capabilities := [.log, .emitSignal, .clock]

/-- One invocation: the signals, which take a capability if there are any, and the lines logged. -/
def invoke (s : Strategy) (data : MarketData) : Run SignalSet := do
  Run.checkpoint
  let set ← s.signals data
  if !set.signals.isEmpty then Run.require .emitSignal
  return { set with logs := set.logs ++ (← get).logs }

end Strategy

end StrategyHost
