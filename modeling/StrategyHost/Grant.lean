import StrategyHost.Capability
import StrategyHost.Budget
import StrategyHost.Audit.Record

/-! # Grants

A `Grant` says what one strategy may do: the capabilities it asks for that lie under the ceiling of its risk
level (`GrantPolicy.grant`), and its budgets. Nothing outside the grant is reachable; a refused use is a
`Denial`, which leaves an audit event (`Grant.denialEvent`). -/

namespace StrategyHost
open Json (Decoder Fields)

structure Grant where
  allowed : Capabilities
  budgets : Budgets
  identity : String
  version : Nat
  riskLevel : RiskLevel
deriving DecidableEq, Repr, Inhabited

/-- The ceiling of each risk level. -/
structure GrantPolicy where
  safe : Capabilities
  low : Capabilities
  medium : Capabilities
  high : Capabilities
deriving DecidableEq, Repr

namespace GrantPolicy

def standard : GrantPolicy :=
  ⟨[.log, .emitSignal, .clock], [.log, .emitSignal, .clock], [.log, .emitSignal], []⟩

instance : Inhabited GrantPolicy := ⟨standard⟩

def ceiling (p : GrantPolicy) : RiskLevel → Capabilities
  | .safe => p.safe
  | .low => p.low
  | .medium => p.medium
  | .high => p.high

/-- What is requested, as far as the ceiling allows it. -/
def grant (p : GrantPolicy) (identity : String) (version : Nat) (risk : RiskLevel) (requested : Capabilities)
    (budgets : Budgets) : Grant :=
  ⟨requested.inter (p.ceiling risk), budgets, identity, version, risk⟩

def toJson (p : GrantPolicy) : Json :=
  .obj [("safe", p.safe.toJson), ("low", p.low.toJson), ("medium", p.medium.toJson), ("high", p.high.toJson)]

def fields : Fields GrantPolicy :=
  GrantPolicy.mk <$> .withDefault "safe" standard.safe Capabilities.decoder
    <*> .withDefault "low" standard.low Capabilities.decoder
    <*> .withDefault "medium" standard.medium Capabilities.decoder
    <*> .withDefault "high" standard.high Capabilities.decoder

def decoder : Decoder GrantPolicy := .record fields

end GrantPolicy

/-- A use of a capability that the grant does not cover. -/
structure Denial where
  capability : Capability
  identity : String
deriving DecidableEq, Repr, Inhabited

namespace Denial

protected def toString (d : Denial) : String :=
  s!"permission denied: {d.capability.name} is not granted to {d.identity}"

def toJson (d : Denial) : Json := .obj [("capability", .str d.capability.name), ("identity", .str d.identity)]

def decoder : Decoder Denial := .record <|
  Denial.mk <$> .required "capability" (.enum Capability.all) <*> .required "identity" .string

end Denial

namespace Grant

def allows (g : Grant) (c : Capability) : Bool := g.allowed.contains c

/-- The event of a denial. It names no caller. -/
def denialEvent (g : Grant) (c : Capability) : Audit.Event :=
  .make .permissionDenied g.identity g.version Audit.systemActor
    [("capability", .str c.name), ("risk_level", g.riskLevel.toJson), ("allowed", g.allowed.toJson)]

/-- Allows a capability that the grant carries and refuses any other, with the event of the refusal. -/
def check (g : Grant) (c : Capability) : Except (Denial × Audit.Event) Unit :=
  if g.allows c then .ok () else .error (⟨c, g.identity⟩, g.denialEvent c)

def toJson (g : Grant) : Json :=
  .obj [("allowed_capabilities", g.allowed.toJson), ("budgets", g.budgets.toJson), ("identity", .str g.identity),
    ("version", .ofNat g.version), ("risk_level", g.riskLevel.toJson)]

end Grant

end StrategyHost
