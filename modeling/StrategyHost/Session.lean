import StrategyHost.Failure

/-! # Invocation sessions

A `Session` is all that one invocation may touch: its grant, the meter of its budgets, the lines it has logged
and the audit events it has caused. Steps of an invocation run in the monad `Run`; a step that fails leaves
the events of the session behind.

How time passes is not for the invocation to say: its `Pace` tells what the meter and the clock will show. -/

namespace StrategyHost

/-- What a meter shows at one look: whether the invocation was cancelled, and how long it has run. -/
structure Reading where
  cancelled : Bool
  elapsedMs : Nat
deriving DecidableEq, Repr, Inhabited

structure Pace where
  /-- What the meter shows at the next looks. After them it stands still. -/
  readings : List Reading
  /-- How many instructions a guest gets done before its deadline, if that is not left to an estimate. -/
  instructions? : Option Nat
  /-- What the clock of the host shows at the next looks. After them it stands still. -/
  clock : List UInt64
deriving DecidableEq, Repr, Inhabited

/-- Time passes as it is estimated. -/
def Pace.estimated : Pace := ⟨[], none, []⟩

/-- The budgets of a running invocation and how far it has got. -/
structure Meter where
  budgets : Budgets
  cancelled : Bool
  elapsedMs : Nat
  pace : Pace
deriving DecidableEq, Repr, Inhabited

namespace Meter

def start (budgets : Budgets) (pace : Pace) : Meter := ⟨budgets, false, 0, pace⟩

/-- A meter that never trips by itself. -/
def unbounded : Meter := start .unbounded .estimated

def next (m : Meter) : Meter :=
  match m.pace.readings with
  | [] => m
  | r :: later =>
    { m with cancelled := r.cancelled, elapsedMs := r.elapsedMs, pace := { m.pace with readings := later } }

def after (m : Meter) (ms : Nat) : Meter := { m with elapsedMs := m.elapsedMs + ms }

/-- The failure of an invocation that was cancelled or has used up its CPU time. -/
def trip? (m : Meter) : Option RunError :=
  if m.cancelled then some .cancelled
  else if m.budgets.cpuTimeMs < m.elapsedMs then
    some (.limitExceeded ⟨.cpuTime, m.budgets.cpuTimeMs, m.elapsedMs⟩)
  else none

end Meter

structure Session where
  grant : Grant
  meter : Meter
  logs : List String
  events : List Audit.Event
deriving Inhabited

def Session.start (grant : Grant) (meter : Meter) : Session := ⟨grant, meter, [], []⟩

abbrev Run (α : Type) := ExceptT Halt (StateM Session) α

namespace Run

variable {α : Type}

def fail (e : RunError) : Run α := throw (.failed e)

/-- Fails unless the grant carries `c`; the denial is an audit event. -/
def require (c : Capability) : Run Unit := do
  let s ← get
  match s.grant.check c with
  | .ok () => pure ()
  | .error (denial, event) =>
    set { s with events := s.events ++ [event] }
    fail (.denied denial)

def look : Run Meter := do
  modify fun s => { s with meter := s.meter.next }
  return (← get).meter

/-- Fails once the invocation was cancelled or has used up its CPU time. -/
def checkpoint : Run Unit := do
  match (← look).trip? with
  | some e => fail e
  | none => pure ()

/-- Logs a line, which takes a capability. -/
def log (line : String) : Run Unit := do
  require .log
  modify fun s => { s with logs := s.logs ++ [line] }

def start (r : Run α) (s : Session) : Except Halt α × Session := r.run.run s

end Run

end StrategyHost
