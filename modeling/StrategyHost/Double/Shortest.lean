import StrategyHost.Word

/-! # Shortest decimals of a double

A finite double is `± mantissa · 2 ^ exponent` (`Parts`). `shortest` gives the decimal with the fewest
digits among those that round to it, and of these the one nearest to it; the two candidates on a
decimal grid are the neighbours of the value, tested by `Interval.contains` in exact arithmetic. -/

namespace StrategyHost.Double

/-- The magnitude of a finite double: `mantissa · 2 ^ exponent`. -/
structure Parts where
  mantissa : Nat
  exponent : Int
deriving Repr, DecidableEq

def isNegative (x : Float) : Bool := 2 ^ 63 ≤ x.toBits.toNat

/-- The magnitude of `x`, or `none` for infinities and not-a-number. -/
def parts? (x : Float) : Option Parts :=
  let bits := x.toBits.toNat
  let biased : Nat := bits / 2 ^ 52 % 2 ^ 11
  let fraction : Nat := bits % 2 ^ 52
  if biased = 2047 then none
  else if biased = 0 then some ⟨fraction, -1074⟩
  else some ⟨fraction + 2 ^ 52, biased - 1075⟩

def isFinite (x : Float) : Bool := (parts? x).isSome

structure Scientific where
  digits : Nat
  exponent : Int
deriving Repr, DecidableEq

/-- The reals that round to a double, in quarters of its last place: from `low` to `high`, times
`2 ^ exponent`, with the ends when `closed`. -/
structure Interval where
  low : Nat
  middle : Nat
  high : Nat
  exponent : Int
  closed : Bool

/-- The gap below a power of two is half the gap above it. -/
def Parts.interval (p : Parts) : Interval where
  low := if p.mantissa = 2 ^ 52 ∧ -1074 < p.exponent then 4 * p.mantissa - 1 else 4 * p.mantissa - 2
  middle := 4 * p.mantissa
  high := 4 * p.mantissa + 2
  exponent := p.exponent - 2
  closed := p.mantissa % 2 = 0

/-- The factors that clear the denominators when `a · 2 ^ e` is compared with `b · 10 ^ u`:
`a` times the first against `b` times the second. -/
def scales (e u : Int) : Nat × Nat :=
  (2 ^ e.toNat * 10 ^ (-u).toNat, 2 ^ (-e).toNat * 10 ^ u.toNat)

/-- Whether `c · 10 ^ u` rounds to the double. -/
def Interval.contains (i : Interval) (c : Nat) (u : Int) : Bool :=
  let (f, g) := scales i.exponent u
  if i.closed then i.low * f ≤ c * g ∧ c * g ≤ i.high * f
  else i.low * f < c * g ∧ c * g < i.high * f

/-- The largest `k` up to `bound` with `10 ^ k ≤ n / d`, or `0`. -/
def floorLog (n d : Nat) : Nat → Nat
  | 0 => 0
  | k + 1 => if d * 10 ^ (k + 1) ≤ n then k + 1 else floorLog n d k

/-- The exponent of the leading decimal digit of `a · 2 ^ e`. -/
def leadingExponent (a : Nat) (e : Int) : Int :=
  let (f, g) := scales e 0
  if g ≤ a * f then floorLog (a * f) g ((a * f).log2 / 3 + 1)
  else
    let k := floorLog g (a * f) (g.log2 / 3 + 1)
    if g = a * f * 10 ^ k then -k else -(k + 1)

/-- The better neighbour of the value on the grid of multiples of `10 ^ u`, if one rounds to it.
A tie goes to the even digit. -/
def Interval.onGrid? (i : Interval) (u : Int) : Option Nat :=
  let (f, g) := scales i.exponent u
  let below := i.middle * f / g
  let twice := 2 * (i.middle * f)
  let middle := (2 * below + 1) * g
  let nearer := if twice < middle ∨ (twice = middle ∧ below % 2 = 0) then below else below + 1
  let farther := if nearer = below then below + 1 else below
  if nearer ≠ 0 ∧ i.contains nearer u then some nearer
  else if farther ≠ 0 ∧ i.contains farther u then some farther
  else none

/-- Tries grids of `17 - left` digits and finer; seventeen digits always suffice. -/
def Interval.search (i : Interval) (lead : Int) : Nat → Scientific
  | 0 => ⟨(i.onGrid? (lead - 16)).getD 0, lead - 16⟩
  | left + 1 =>
    let u := lead - (16 - (left + 1) : Int)
    match i.onGrid? u with
    | some d => ⟨d, u⟩
    | none => i.search lead left

/-- Moves the trailing zeros of the digits into the exponent. -/
def Scientific.strip (s : Scientific) : Nat → Scientific
  | 0 => s
  | fuel + 1 =>
    if s.digits ≠ 0 ∧ s.digits % 10 = 0 then
      Scientific.strip ⟨s.digits / 10, s.exponent + 1⟩ fuel
    else s

/-- The fewest digits that round to `p`, nearest first. -/
def Parts.shortest (p : Parts) : Scientific :=
  if p.mantissa = 0 then ⟨0, 0⟩
  else
    let i := p.interval
    (i.search (leadingExponent i.middle i.exponent) 16).strip 20

end StrategyHost.Double
