import StrategyHost.Grant

/-! # Failures

`RunError` is the failure of one invocation, `StrategyError` what the logic of a strategy itself may report,
and `LoadError` the failure to produce a strategy. Refusals and breaches are cases of their own, so no caller
mistakes them for ordinary errors. -/

namespace StrategyHost

inductive RunError where
  | denied (d : Denial)
  | limitExceeded (b : Breach)
  | runtime (text : String)
  | cancelled
  | instantiation (text : String)
  | internal (text : String)
deriving DecidableEq, Repr, Inhabited

namespace RunError

def name : RunError → String
  | denied _ => "PermissionDenied"
  | limitExceeded _ => "ResourceLimitExceeded"
  | runtime _ => "StrategyRuntime"
  | cancelled => "Cancelled"
  | instantiation _ => "Instantiation"
  | internal _ => "Internal"

def message : RunError → String
  | denied d => d.toString
  | limitExceeded b => b.toString
  | runtime text => s!"strategy runtime error: {text}"
  | cancelled => "invocation cancelled"
  | instantiation text => s!"instantiation failed: {text}"
  | internal text => s!"internal error: {text}"

/-- Denials and breaches must reach the audit trail. -/
def isSecurity : RunError → Bool
  | denied _ | limitExceeded _ => true
  | _ => false

def toJson (e : RunError) : Json :=
  .obj <| [("error", .str e.name), ("message", .str e.message), ("security", .bool e.isSecurity)] ++
    match e with
    | denied d => [("denied", d.toJson)]
    | limitExceeded b => [("breach", b.toJson)]
    | _ => []

end RunError

/-- How an invocation stops short of a result: with an error, or because the strategy's arithmetic left its
range. -/
inductive Halt where
  | failed (e : RunError)
  | overflow
deriving DecidableEq, Repr, Inhabited

/-- What the logic of a strategy reports. -/
inductive StrategyError where
  | insufficientData (required available : Nat)
  | computation (text : String)
  | stopped (e : RunError)
deriving DecidableEq, Repr

namespace StrategyError

def message : StrategyError → String
  | insufficientData required available =>
    s!"insufficient data: need {required} candles, have {available}"
  | computation text => s!"computation error: {text}"
  | stopped e => e.message

/-- The failure of the invocation: a check of the host that tripped inside the strategy stays what it is. -/
def toRunError : StrategyError → RunError
  | stopped e => e
  | e => .runtime e.message

end StrategyError

inductive LoadError where
  | rejected (identity : String) (verdict : Verdict)
  | unknownIdentity (identity : String)
  | invalidParameter (parameter reason : String)
  | instantiation (text : String)
  | limitExceeded (b : Breach)
  | cacheUnavailable (text : String)
  | storeUnavailable (text : String)
  | internal (text : String)
deriving DecidableEq, Repr

namespace LoadError

def message : LoadError → String
  | rejected identity verdict => s!"strategy {identity} rejected by policy: {verdict.summary}"
  | unknownIdentity identity => s!"unknown strategy identity: {identity}"
  | invalidParameter parameter reason => s!"invalid parameter {parameter}: {reason}"
  | instantiation text => s!"instantiation error: {text}"
  | limitExceeded b => s!"eager validation failed: {b.toString}"
  | cacheUnavailable text => s!"cache unavailable: {text}"
  | storeUnavailable text => s!"store unavailable: {text}"
  | internal text => s!"internal error: {text}"

def kind : LoadError → String
  | rejected .. => "rejected_by_policy"
  | unknownIdentity _ => "unknown_identity"
  | invalidParameter .. => "invalid_parameter"
  | instantiation _ => "instantiation_error"
  | limitExceeded _ => "resource_limit_exceeded"
  | cacheUnavailable _ => "cache_unavailable"
  | storeUnavailable _ => "store_unavailable"
  | internal _ => "internal"

/-- Failures of the infrastructure, which the caller may try again. -/
def isRetryable : LoadError → Bool
  | cacheUnavailable _ | storeUnavailable _ => true
  | _ => false

def toJson (e : LoadError) : Json :=
  .obj <| [("error", .str e.kind), ("message", .str e.message), ("retryable", .bool e.isRetryable)] ++
    match e with
    | rejected _ v => [("verdict", v.toJson)]
    | limitExceeded b => [("breach", b.toJson)]
    | _ => []

end LoadError

end StrategyHost
