import StrategyHost.Verdict
import StrategyHost.Word

/-! # Budgets

`Budgets` are the ceilings of one invocation and a `Breach` says which of them was passed. `Limits` holds the
budgets of each risk level and converts them: CPU time into fuel (`Limits.fuelFor`) and wall-clock time into
ticks of the deadline clock (`Limits.ticksFor`). -/

namespace StrategyHost
open Json (Decoder Fields)

inductive BudgetKind where
  | cpuTime | memory | wallClock
deriving DecidableEq, Repr, Inhabited

namespace BudgetKind

def all : List (String × BudgetKind) :=
  [("CpuTime", cpuTime), ("Memory", memory), ("WallClock", wallClock)]

def name : BudgetKind → String
  | cpuTime => "CpuTime"
  | memory => "Memory"
  | wallClock => "WallClock"

protected def toString : BudgetKind → String
  | cpuTime => "cpu_time"
  | memory => "memory"
  | wallClock => "wall_clock"

def unit : BudgetKind → String
  | memory => "bytes"
  | _ => "ms"

end BudgetKind

/-- Which ceiling was passed, its value, and what was observed. -/
structure Breach where
  budget : BudgetKind
  limit : Nat
  observed : Nat
deriving DecidableEq, Repr, Inhabited

namespace Breach

def overshoot (b : Breach) : Nat := b.observed - b.limit

protected def toString (b : Breach) : String :=
  let unit := b.budget.unit
  s!"{b.budget.toString} budget exceeded: limit {b.limit}{unit}, observed {b.observed}{unit}"

def toJson (b : Breach) : Json :=
  .obj [("budget", .str b.budget.name), ("limit", .ofNat b.limit), ("observed", .ofNat b.observed)]

def decoder : Decoder Breach := .record <|
  Breach.mk <$> .required "budget" (.enum BudgetKind.all) <*> .required "limit" (.nat 64)
    <*> .required "observed" (.nat 64)

end Breach

/-- The ceilings of one invocation. -/
structure Budgets where
  cpuTimeMs : Nat
  memoryBytes : Nat
  wallClockMs : Nat
deriving DecidableEq, Repr, Inhabited

namespace Budgets

def unbounded : Budgets := ⟨maxUInt64, maxUInt64, maxUInt64⟩

/-- The smaller ceiling of each kind. -/
def tighten (a b : Budgets) : Budgets :=
  ⟨min a.cpuTimeMs b.cpuTimeMs, min a.memoryBytes b.memoryBytes, min a.wallClockMs b.wallClockMs⟩

def toJson (b : Budgets) : Json :=
  .obj [("cpu_time_ms", .ofNat b.cpuTimeMs), ("memory_bytes", .ofNat b.memoryBytes),
    ("wall_clock_ms", .ofNat b.wallClockMs)]

def decoder : Decoder Budgets := .record <|
  Budgets.mk <$> .required "cpu_time_ms" (.nat 64) <*> .required "memory_bytes" (.nat 64)
    <*> .required "wall_clock_ms" (.nat 64)

end Budgets

/-- The budgets of each risk level and how they are enforced. -/
structure Limits where
  safe : Budgets
  low : Budgets
  medium : Budgets
  high : Budgets
  fuelPerMs : Nat
  epochTickMs : Nat
  graceMs : Nat
  maxConcurrent : Nat
deriving DecidableEq, Repr

namespace Limits

def mebibyte : Nat := 1024 * 1024

def standard : Limits where
  safe := ⟨2000, 64 * mebibyte, 3000⟩
  low := ⟨1500, 48 * mebibyte, 2500⟩
  medium := ⟨1000, 32 * mebibyte, 2000⟩
  high := ⟨250, 16 * mebibyte, 500⟩
  fuelPerMs := 100000
  epochTickMs := 10
  graceMs := 100
  maxConcurrent := 64

instance : Inhabited Limits := ⟨standard⟩

def budgetsFor (l : Limits) : RiskLevel → Budgets
  | .safe => l.safe
  | .low => l.low
  | .medium => l.medium
  | .high => l.high

/-- A sum or product that does not fit in 64 bits counts as the largest number that does. -/
def saturate (n : Nat) : Nat := min n maxUInt64

def fuelFor (l : Limits) (cpuTimeMs : Nat) : Nat := saturate (cpuTimeMs * l.fuelPerMs)

/-- The tick of the deadline clock, at least a millisecond. -/
def tickMs (l : Limits) : Nat := max l.epochTickMs 1

/-- The ticks after which a wall-clock budget has passed. The running tick may be nearly over, so one more
is granted; behind the largest number of 64 bits that sum is zero. -/
def ticksFor (l : Limits) (wallClockMs : Nat) : Nat :=
  ((wallClockMs + l.tickMs - 1) / l.tickMs + 1) % 2 ^ 64

def toJson (l : Limits) : Json :=
  .obj [("safe", l.safe.toJson), ("low", l.low.toJson), ("medium", l.medium.toJson), ("high", l.high.toJson),
    ("fuel_per_ms", .ofNat l.fuelPerMs), ("epoch_tick_ms", .ofNat l.epochTickMs),
    ("grace_ms", .ofNat l.graceMs), ("max_concurrent", .ofNat l.maxConcurrent)]

def fields : Fields Limits :=
  Limits.mk <$> .withDefault "safe" standard.safe Budgets.decoder
    <*> .withDefault "low" standard.low Budgets.decoder
    <*> .withDefault "medium" standard.medium Budgets.decoder
    <*> .withDefault "high" standard.high Budgets.decoder
    <*> .withDefault "fuel_per_ms" standard.fuelPerMs (.nat 64)
    <*> .withDefault "epoch_tick_ms" standard.epochTickMs (.nat 64)
    <*> .withDefault "grace_ms" standard.graceMs (.nat 64)
    <*> .withDefault "max_concurrent" standard.maxConcurrent (.nat 64)

def decoder : Decoder Limits := .record fields

end Limits

end StrategyHost
