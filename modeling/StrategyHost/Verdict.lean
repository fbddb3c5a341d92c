import StrategyHost.Json.Decoder

/-! # Verdicts

A `Verdict` is what the analysis of a source says: an outcome and a risk level derived from its findings
(`derive`), or the fixed verdict of a trusted tier (`Verdict.trusted`). `Verdict.ofParts?` admits no other
combination, so a verdict that was stored cannot come back milder than its findings. -/

namespace StrategyHost
open Json (Decoder Fields)

inductive Severity where
  | low | medium | high | critical
deriving DecidableEq, Repr, Inhabited

namespace Severity

def all : List (String × Severity) :=
  [("Low", low), ("Medium", medium), ("High", high), ("Critical", critical)]

def name : Severity → String
  | low => "Low"
  | medium => "Medium"
  | high => "High"
  | critical => "Critical"

def rank : Severity → Nat
  | low => 0
  | medium => 1
  | high => 2
  | critical => 3

/-- High and critical findings reject the source. -/
def isBlocking (s : Severity) : Bool := high.rank ≤ s.rank

end Severity

/-- The overall risk of a verdict, which selects grants and budgets. -/
inductive RiskLevel where
  | safe | low | medium | high
deriving DecidableEq, Repr, Inhabited

namespace RiskLevel

def all : List (String × RiskLevel) :=
  [("Safe", safe), ("Low", low), ("Medium", medium), ("High", high)]

def name : RiskLevel → String
  | safe => "Safe"
  | low => "Low"
  | medium => "Medium"
  | high => "High"

def rank : RiskLevel → Nat
  | safe => 0
  | low => 1
  | medium => 2
  | high => 3

def toJson (r : RiskLevel) : Json := .str r.name

end RiskLevel

inductive Outcome where
  | accept | acceptWithWarnings | reject
deriving DecidableEq, Repr, Inhabited

namespace Outcome

def all : List (String × Outcome) :=
  [("Accept", accept), ("AcceptWithWarnings", acceptWithWarnings), ("Reject", reject)]

def name : Outcome → String
  | accept => "Accept"
  | acceptWithWarnings => "AcceptWithWarnings"
  | reject => "Reject"

def rank : Outcome → Nat
  | accept => 0
  | acceptWithWarnings => 1
  | reject => 2

end Outcome

inductive Category where
  | dangerousImport | dangerousCall | dangerousAttribute | unreadable | policyLimit | unboundedLoop
  | dynamicDispatch | startFunction | capabilityRequest
deriving DecidableEq, Repr, Inhabited

namespace Category

def all : List (String × Category) :=
  [("DangerousImport", dangerousImport), ("DangerousCall", dangerousCall),
   ("DangerousAttribute", dangerousAttribute), ("SyntaxError", unreadable), ("PolicyLimit", policyLimit),
   ("UnboundedLoop", unboundedLoop), ("DynamicDispatch", dynamicDispatch),
   ("StartFunction", startFunction), ("CapabilityRequest", capabilityRequest)]

def name : Category → String
  | dangerousImport => "DangerousImport"
  | dangerousCall => "DangerousCall"
  | dangerousAttribute => "DangerousAttribute"
  | unreadable => "SyntaxError"
  | policyLimit => "PolicyLimit"
  | unboundedLoop => "UnboundedLoop"
  | dynamicDispatch => "DynamicDispatch"
  | startFunction => "StartFunction"
  | capabilityRequest => "CapabilityRequest"

end Category

/-- A place in a source, counted from one, and the item it concerns. -/
structure Location where
  line : Nat
  column : Nat
  item : String
deriving DecidableEq, Repr, Inhabited

namespace Location

protected def toString (l : Location) : String :=
  if l.item.isEmpty then s!"{l.line}:{l.column}" else s!"{l.line}:{l.column} ({l.item})"

def toJson (l : Location) : Json :=
  .obj [("line", .ofNat l.line), ("column", .ofNat l.column), ("item", .str l.item)]

def decoder : Decoder Location := .record <|
  Location.mk <$> .required "line" (.nat 32) <*> .required "column" (.nat 32) <*> .required "item" .string

end Location

structure Finding where
  category : Category
  location : Location
  message : String
  severity : Severity
deriving DecidableEq, Repr, Inhabited

namespace Finding

protected def toString (f : Finding) : String :=
  s!"[{f.severity.name}/{f.category.name}] {f.message} at {f.location.toString}"

def toJson (f : Finding) : Json :=
  .obj [("category", .str f.category.name), ("location", f.location.toJson), ("message", .str f.message),
    ("severity", .str f.severity.name)]

def decoder : Decoder Finding := .record <|
  Finding.mk <$> .required "category" (.enum Category.all) <*> .required "location" Location.decoder
    <*> .required "message" .string <*> .required "severity" (.enum Severity.all)

/-- The last of the most severe findings. -/
def worst? : List Finding → Option Finding
  | [] => none
  | f :: fs =>
    match worst? fs with
    | none => some f
    | some g => if g.severity.rank < f.severity.rank then some f else some g

end Finding

/-- The trust tier of a strategy: part of the host, part of the host with foreign parameters, or foreign
source text. -/
inductive Tier where
  | predefined | configured | dynamic
deriving DecidableEq, Repr, Inhabited

namespace Tier

def all : List (String × Tier) :=
  [("Predefined", predefined), ("Configured", configured), ("Dynamic", dynamic)]

def name : Tier → String
  | predefined => "Predefined"
  | configured => "Configured"
  | dynamic => "Dynamic"

protected def toString : Tier → String
  | predefined => "predefined"
  | configured => "configured"
  | dynamic => "dynamic"

/-- Whether strategies of the tier may be held outside the process. -/
def isShareable (t : Tier) : Bool := t != .dynamic

def decoder : Decoder Tier := .enum all

end Tier

/-- The outcome and the risk level that follow from findings. -/
def derive (findings : List Finding) : Outcome × RiskLevel :=
  match Finding.worst? findings with
  | none => (.accept, .safe)
  | some worst =>
    if worst.severity.isBlocking then (.reject, .high) else (.acceptWithWarnings, .medium)

/-- Whether an outcome and a risk level may stand over findings: they follow from them, or the verdict is the
unconditional acceptance of a trusted tier. -/
def consistent (outcome : Outcome) (risk : RiskLevel) (findings : List Finding) : Bool :=
  (outcome, risk) = derive findings || (findings.isEmpty && outcome = .accept)

structure Verdict where
  outcome : Outcome
  riskLevel : RiskLevel
  findings : List Finding
  contentHash : String
  isConsistent : consistent outcome riskLevel findings = true
deriving DecidableEq, Repr

namespace Verdict

def ofFindings (contentHash : String) (findings : List Finding) : Verdict :=
  ⟨(derive findings).1, (derive findings).2, findings, contentHash, by simp [consistent]⟩

/-- The risk of a tier that is accepted without analysis. -/
def trustedRisk : Tier → RiskLevel
  | .predefined => .safe
  | .configured => .low
  | .dynamic => .medium

def trusted (tier : Tier) (contentHash : String) : Verdict :=
  ⟨.accept, trustedRisk tier, [], contentHash, by simp [consistent]⟩

/-- A verdict from its parts, or the text that says how they disagree. -/
def ofParts? (outcome : Outcome) (risk : RiskLevel) (findings : List Finding) (contentHash : String) :
    Except String Verdict :=
  if h : consistent outcome risk findings = true then .ok ⟨outcome, risk, findings, contentHash, h⟩
  else
    let (o, r) := derive findings
    .error s!"verdict {outcome.name}/{risk.name} does not match its findings ({o.name}/{r.name})"

def isRejected (v : Verdict) : Bool := v.outcome = .reject

def worst? (v : Verdict) : Option Finding := Finding.worst? v.findings

def summary (v : Verdict) : String :=
  let short := s!"{v.outcome.name} ({v.riskLevel.name})"
  match v.outcome, v.worst? with
  | .accept, _ => short
  | _, none => short
  | _, some worst =>
    if v.findings.length = 1 then s!"{short}: {worst.toString}"
    else
      let more := v.findings.length - 1
      s!"{short}: {worst.toString} (+{more} more)"

def toJson (v : Verdict) : Json :=
  .obj [("outcome", .str v.outcome.name), ("risk_level", v.riskLevel.toJson),
    ("findings", .arr (v.findings.map Finding.toJson)), ("content_hash", .str v.contentHash)]

/-- The parts of a verdict as they are written. -/
def partsFields : Fields (Outcome × RiskLevel × List Finding × String) :=
  (fun o r fs h => (o, r, fs, h)) <$> .required "outcome" (.enum Outcome.all)
    <*> .required "risk_level" (.enum RiskLevel.all) <*> .required "findings" (.list Finding.decoder)
    <*> .required "content_hash" .string

def decoder : Decoder Verdict := (Decoder.record partsFields).bind fun (o, r, fs, h) =>
  match ofParts? o r fs h with
  | .ok v => .ok v
  | .error message => .error (.mismatch (some message))

end Verdict

end StrategyHost
