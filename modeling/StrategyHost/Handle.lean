import StrategyHost.Runnable
import StrategyHost.Supervisor

/-! # Handles

A `Handle` is a loaded strategy with what it may do and use. Its holders need not know of which tier it is. -/

namespace StrategyHost

structure Handle where
  /-- Two handles of one number are the same instance. -/
  number : Nat
  key : CacheKey
  tier : Tier
  runnable : Runnable
  grant : Grant
  verdict : Verdict
  /-- The bound parameters of a trusted strategy. -/
  params? : Option Params
  limits : Limits

namespace Handle

def toFields (h : Handle) : List (String × Json) :=
  [("identity", .str h.key.identity), ("version", .ofNat h.key.version), ("tier", .str h.tier.toString),
    ("name", .str h.runnable.name), ("key", .str h.key.toString), ("verdict", h.verdict.toJson),
    ("summary", .str h.verdict.summary), ("grant", h.grant.toJson),
    ("params", match h.params? with | some p => p.toJson | none => .null)]

def ending : Except Halt SignalSet → Ending SignalSet
  | .ok set => .returned (.ok set)
  | .error (.failed e) => .returned (.error e)
  | .error .overflow => .crashed

def scope (h : Handle) (actor : String) : Scope := ⟨h.key.identity, h.key.version, actor⟩

/-- The run of an invocation on its worker: how it ends, and its session. -/
def run (h : Handle) (pace : Pace) (data : MarketData) : Except Halt SignalSet × Session :=
  (h.runnable.invoke h.limits data).start (.start h.grant (.start h.grant.budgets pace))

/-- What comes of an invocation that runs, if it does, like `ran`, and the audit events that it causes. -/
def close (h : Handle) (actor : String) (course : Course) (ran : Except Halt SignalSet × Session) :
    Except RunError SignalSet × List Audit.Event :=
  let (result, breach) := conclude (h.scope actor) h.grant.budgets (ending ran.1) course
  (result, (if course.runsJob then ran.2.events else []) ++ breach)

/-- Runs a strategy once on behalf of `actor`, where the supervisor and the clock go as they are told. -/
def invokeAlong (h : Handle) (course : Course) (pace : Pace) (actor : String) (data : MarketData) :
    Except RunError SignalSet × List Audit.Event :=
  h.close actor course (h.run pace data)

/-- Runs a strategy once on behalf of `actor`. It takes the time that is estimated. -/
def invoke (h : Handle) (actor : String) (data : MarketData) : Except RunError SignalSet × List Audit.Event :=
  let ran := h.run .estimated data
  h.close actor (.ofDuration h.limits.graceMs h.grant.budgets ran.2.meter.elapsedMs) ran

end Handle

end StrategyHost
