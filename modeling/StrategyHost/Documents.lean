import StrategyHost.Audit.Logger
import StrategyHost.Config.Basic
import StrategyHost.Market
import StrategyHost.Snapshot

/-! # Kinds of documents

Every kind of document that is read or written has a name. `normalize?` reads a text as a document of a kind and writes
it again in the one form that this kind has. -/

namespace StrategyHost.Documents
open Json (Decoder Fault)

/-- Reads a text and writes its document again. -/
abbrev Normalizer := String → Except Fault String

def through {α : Type} (d : Decoder α) (toJson : α → Json) : Normalizer := fun text =>
  (Json.decodeText d text).map fun a => (toJson a).compact

/-- A kind whose documents are names. -/
def named {α : Type} (all : List (String × α)) (name : α → String) : Normalizer :=
  through (.enum all) fun a => .str (name a)

def kinds : List (String × Normalizer) :=
  [("Verdict", through Verdict.decoder Verdict.toJson),
   ("Finding", through Finding.decoder Finding.toJson),
   ("Location", through Location.decoder Location.toJson),
   ("Severity", named Severity.all Severity.name),
   ("RiskLevel", named RiskLevel.all RiskLevel.name),
   ("Outcome", named Outcome.all Outcome.name),
   ("FindingCategory", named Category.all Category.name),
   ("Signal", through Signal.decoder Signal.toJson),
   ("SignalSide", named Side.all Side.name),
   ("SignalSet", through SignalSet.decoder SignalSet.toJson),
   ("Candle", through Candle.decoder Candle.toJson),
   ("MarketData", through MarketData.decoder MarketData.toJson),
   ("GatewayConfig", through Config.decoder Config.toJson),
   ("AuditRecord", through Audit.Record.decoder Audit.Record.toJson),
   ("SealedRecord", through Audit.Sealed.decoder Audit.Sealed.toJson),
   ("AuditEventType", named Audit.EventKind.all Audit.EventKind.name),
   ("AuditConfig", through Audit.Config.decoder Audit.Config.toJson),
   ("Tier", named Tier.all Tier.name),
   ("Capability", named Capability.all Capability.name),
   ("GrantPolicy", through GrantPolicy.decoder GrantPolicy.toJson),
   ("Budgets", through Budgets.decoder Budgets.toJson),
   ("BudgetKind", named BudgetKind.all BudgetKind.name),
   ("LimitsConfig", through Limits.decoder Limits.toJson),
   ("CacheConfig", through (.record CacheConfig.fields) CacheConfig.toJson),
   ("FactoryConfig", through (.record FactoryConfig.fields) FactoryConfig.toJson),
   ("SharedSnapshot", through Snapshot.decoder Snapshot.toJson),
   ("SanitizerPolicy", through Policy.decoder Policy.toJson),
   ("ResourceLimitExceeded", through Breach.decoder Breach.toJson),
   ("PermissionDenied", through Denial.decoder Denial.toJson),
   ("SourceText", through .string .str),
   ("CacheKey", through CacheKey.decoder CacheKey.toJson),
   ("ConfigParams", through Params.decoder Params.toJson)]

def normalize? (kind text : String) : Option (Except Fault String) := (kinds.lookup kind).map fun f => f text

end StrategyHost.Documents
