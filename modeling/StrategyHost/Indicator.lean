import StrategyHost.Decimal.Basic

/-! # Indicators

Streaming indicators over prices: the relative strength index with Wilder's smoothing, the simple moving
average, and the exponential moving average that starts from a simple one. Each takes one price at a time
(`push`) and has a value from its last period on. -/

namespace StrategyHost

structure Rsi where
  period : Nat
  samples : Nat
  previous : Option Float
  gain : Float
  loss : Float

namespace Rsi

def new (period : Nat) : Rsi := ⟨period, 0, none, 0.0, 0.0⟩

def isReady (r : Rsi) : Bool := r.period < r.samples

/-- The sums of the first period become averages, which later changes move by their `period`-th part. -/
def smooth (r : Rsi) (average change : Float) : Float :=
  let n := Float.ofNat r.period
  if r.samples < r.period then average + change
  else if r.samples = r.period then (average + change) / n
  else (average * (n - 1.0) + change) / n

def positivePart (x : Float) : Float := if 0.0 < x then x else 0.0

/-- The index; without any loss it is at its top. -/
def value (r : Rsi) : Float :=
  if r.loss == 0.0 then 100.0
  else
    let strength := r.gain / r.loss
    100.0 - (100.0 / (1.0 + strength))

def push (r : Rsi) (price : Decimal) : Rsi :=
  let x := price.toFloat
  match r.previous with
  | none => { r with previous := some x, samples := r.samples + 1 }
  | some before =>
    let change := x - before
    { r with
      gain := r.smooth r.gain (positivePart change), loss := r.smooth r.loss (positivePart (-change)),
      previous := some x, samples := r.samples + 1 }

def output (r : Rsi) : Option Decimal := if r.isReady then some (Decimal.ofFloat r.value) else none

end Rsi

/-- The mean of the last `period` prices, oldest first. -/
structure Sma where
  period : Nat
  window : List Float
  sum : Float

namespace Sma

def new (period : Nat) : Sma := ⟨period, [], 0.0⟩

def isReady (s : Sma) : Bool := s.period ≤ s.window.length

def push (s : Sma) (price : Decimal) : Sma :=
  let x := price.toFloat
  let window := s.window ++ [x]
  let sum := s.sum + x
  if s.period < window.length then
    match window with
    | oldest :: rest => { s with window := rest, sum := sum - oldest }
    | [] => { s with window := window, sum := sum }
  else { s with window := window, sum := sum }

def output (s : Sma) : Option Decimal :=
  if s.isReady then some (Decimal.ofFloat (s.sum / Float.ofNat s.period)) else none

end Sma

/-- The exponential moving average; its first value is the mean of the first period. -/
structure Ema where
  period : Nat
  samples : Nat
  seed : Float
  current : Option Float

namespace Ema

def new (period : Nat) : Ema := ⟨period, 0, 0.0, none⟩

def weight (e : Ema) : Float := 2.0 / (Float.ofNat e.period + 1.0)

def isReady (e : Ema) : Bool := e.current.isSome

def push (e : Ema) (price : Decimal) : Ema :=
  let x := price.toFloat
  let samples := e.samples + 1
  match e.current with
  | some before => { e with samples := samples, current := some (before + e.weight * (x - before)) }
  | none =>
    let seed := e.seed + x
    { e with
      samples := samples, seed := seed
      current := if samples = e.period then some (seed / Float.ofNat e.period) else none }

def output (e : Ema) : Option Decimal := e.current.map Decimal.ofFloat

end Ema

inductive Indicator where
  | rsi (r : Rsi)
  | sma (s : Sma)
  | ema (e : Ema)

namespace Indicator

def name : Indicator → String
  | rsi _ => "RSI"
  | sma _ => "SMA"
  | ema _ => "EMA"

/-- The prices that are needed before there is a value. -/
def warmup : Indicator → Nat
  | rsi r => r.period + 1
  | sma s => s.period
  | ema e => e.period

def isReady : Indicator → Bool
  | rsi r => r.isReady
  | sma s => s.isReady
  | ema e => e.isReady

def push (i : Indicator) (price : Decimal) : Indicator :=
  match i with
  | rsi r => .rsi (r.push price)
  | sma s => .sma (s.push price)
  | ema e => .ema (e.push price)

def output : Indicator → Option Decimal
  | rsi r => r.output
  | sma s => s.output
  | ema e => e.output

def trace (i : Indicator) : List Decimal → List (Option Decimal × Bool)
  | [] => []
  | p :: ps =>
    let j := i.push p
    (j.output, j.isReady) :: j.trace ps

def lastValue (i : Indicator) (prices : List Decimal) : Option Decimal :=
  if prices.isEmpty then none else (prices.foldl push i).output

end Indicator

def sumFloats (xs : List Float) : Float := xs.foldl (· + ·) 0.0

/-- The mean and the standard deviation of all prices; none of no price. -/
def meanAndDeviation (prices : List Decimal) : Option (Float × Float) :=
  if prices.isEmpty then none
  else
    let n := Float.ofNat prices.length
    let xs := prices.map Decimal.toFloat
    let mean := sumFloats xs / n
    let variance := sumFloats (xs.map fun x => (x - mean) * (x - mean)) / n
    some (mean, variance.sqrt)

end StrategyHost
