import StrategyHost.Session

/-! # Supervision

A job runs beside a supervisor, which owns the wall-clock deadline. When the deadline passes the job is cancelled and
has a grace period to end; a job that still runs then is abandoned. Whatever happens, a breach of a budget leaves one
event that names the caller (`Scope.breachEvent`).

`Course` is what a supervisor comes to see, and `conclude` what it makes of it. Where the times of a job are known, they tell
its course (`supervise`). Time is counted in milliseconds from the start of the job. -/

namespace StrategyHost

structure Scope where
  identity : String
  version : Nat
  actor : String
deriving DecidableEq, Repr, Inhabited

/-- The event of a breach; `forced` tells that the job was abandoned. -/
def Scope.breachEvent (s : Scope) (b : Breach) (forced : Bool) : Audit.Event :=
  .make .resourceLimitExceeded s.identity s.version s.actor
    [("budget", .str b.budget.name), ("limit", .ofNat b.limit), ("observed", .ofNat b.observed), ("forced", .bool forced)]

inductive Ending (α : Type) where
  | returned (result : Except RunError α)
  | crashed

/-- When and how a job ends, if it does: left alone, and after it was cancelled. -/
structure Job (α : Type) where
  alone : Option (Nat × Ending α)
  cancelled : Nat → Option (Nat × Ending α)

namespace Job
variable {α : Type}

/-- A job that never looks whether it is cancelled. -/
def deaf (ending : Option (Nat × Ending α)) : Job α := ⟨ending, fun _ => ending⟩

def immediate (result : Except RunError α) : Job α := deaf (some (0, .returned result))

/-- A job that asks again and again whether it may go on, until its processor time is used up. -/
def spinning (budgets : Budgets) : Job α :=
  let cpu := budgets.cpuTimeMs
  ⟨some (cpu + 1, .returned (.error (.limitExceeded ⟨.cpuTime, cpu, cpu + 1⟩))),
    fun t => some (t + 1, .returned (.error .cancelled))⟩

end Job

namespace Ending
variable {α : Type}

def result : Ending α → Except RunError α
  | returned r => r
  | crashed => .error (.internal "strategy worker panicked")

end Ending

/-- An ending that comes no later than `deadline`. -/
def endingBy? {α : Type} (deadline : Nat) : Option (Nat × Ending α) → Option (Nat × Ending α)
  | some (t, e) => if t ≤ deadline then some (t, e) else none
  | none => none

/-- What a supervisor sees of its job. -/
inductive Course where
  /-- No worker can be had, for their pool is closed. -/
  | closed
  /-- No worker is free before the deadline. -/
  | crowded (waitedMs : Nat)
  /-- The worker does not start. -/
  | unstarted (reason : String)
  /-- The job ends before the deadline. -/
  | inTime
  /-- The job ends in the grace period, as is seen at the given time. -/
  | late (atMs : Nat)
  /-- The job still runs after the grace period. -/
  | abandoned (atMs : Nat)
deriving DecidableEq, Repr, Inhabited

namespace Course

/-- Whether the job runs at all. One that is abandoned runs on. -/
def runsJob : Course → Bool
  | closed | crowded _ | unstarted _ => false
  | inTime | late _ | abandoned _ => true

/-- Whether there is a result before the deadline. -/
def meetsDeadline : Course → Bool
  | closed | unstarted _ | inTime => true
  | crowded _ | late _ | abandoned _ => false

/-- The course of a job that runs for `ms` and does not look whether it is cancelled. -/
def ofDuration (graceMs : Nat) (budgets : Budgets) (ms : Nat) : Course :=
  let wall := budgets.wallClockMs
  if ms ≤ wall then inTime else if ms ≤ wall + graceMs then late ms else abandoned (wall + graceMs)

end Course

/-- The result of a failed job with the event of its breach. -/
def breached {α : Type} (scope : Scope) (forced : Bool) (b : Breach) : Except RunError α × List Audit.Event :=
  (.error (.limitExceeded b), [scope.breachEvent b forced])

/-- The result of a job that met its deadline, with the event of a breach that it reports. -/
def finished {α : Type} (scope : Scope) : Except RunError α → Except RunError α × List Audit.Event
  | .error (.limitExceeded b) => breached scope false b
  | r => (r, [])

/-- What comes of a job that ends like `e`, if it comes to its end. A job that ends in the grace period may know better which
budget it broke. -/
def conclude {α : Type} (scope : Scope) (budgets : Budgets) (e : Ending α) : Course → Except RunError α × List Audit.Event
  | .closed => (.error (.internal "worker pool closed"), [])
  | .crowded waited => breached scope false ⟨.wallClock, budgets.wallClockMs, waited⟩
  | .unstarted reason => (.error (.internal s!"failed to spawn worker: {reason}"), [])
  | .inTime => finished scope e.result
  | .late time =>
    match e with
    | .returned (.error (.limitExceeded b)) => breached scope false b
    | _ => breached scope false ⟨.wallClock, budgets.wallClockMs, time⟩
  | .abandoned time => breached scope true ⟨.wallClock, budgets.wallClockMs, time⟩

def supervise {α : Type} (graceMs : Nat) (scope : Scope) (budgets : Budgets) (job : Job α) :
    Except RunError α × List Audit.Event :=
  let wall := budgets.wallClockMs
  match endingBy? wall job.alone with
  | some (_, e) => conclude scope budgets e .inTime
  | none =>
    match endingBy? (wall + graceMs) (job.cancelled wall) with
    | some (time, e) => conclude scope budgets e (.late (max time wall))
    | none => breached scope true ⟨.wallClock, wall, wall + graceMs⟩

end StrategyHost
