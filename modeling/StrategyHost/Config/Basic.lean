import StrategyHost.Policy
import StrategyHost.Grant
import StrategyHost.Audit.Logger

/-! # Configuration

`Config` holds the settings of every part of the host. Each section has defaults, so an empty configuration is
valid; `Config.fault?` says what a configuration may not contain. -/

namespace StrategyHost
open Json (Decoder Fields)

structure CacheConfig where
  maxEntries : Nat
deriving DecidableEq, Repr

namespace CacheConfig

def standard : CacheConfig := ⟨1024⟩

instance : Inhabited CacheConfig := ⟨standard⟩

def toJson (c : CacheConfig) : Json := .obj [("max_entries", .ofNat c.maxEntries)]

def fields : Fields CacheConfig := CacheConfig.mk <$> .withDefault "max_entries" standard.maxEntries (.nat 64)

end CacheConfig

/-- How strategies are produced: whether each is tried on empty data first, and how often and with which pause
a store is asked. -/
structure FactoryConfig where
  eagerValidation : Bool
  storeAttempts : Nat
  storeBackoffMs : Nat
deriving DecidableEq, Repr

namespace FactoryConfig

def standard : FactoryConfig := ⟨false, 3, 25⟩

instance : Inhabited FactoryConfig := ⟨standard⟩

def toJson (c : FactoryConfig) : Json :=
  .obj [("eager_validation", .bool c.eagerValidation), ("store_attempts", .ofNat c.storeAttempts),
    ("store_backoff_ms", .ofNat c.storeBackoffMs)]

def fields : Fields FactoryConfig :=
  FactoryConfig.mk <$> .withDefault "eager_validation" standard.eagerValidation .bool
    <*> .withDefault "store_attempts" standard.storeAttempts (.nat 32)
    <*> .withDefault "store_backoff_ms" standard.storeBackoffMs (.nat 64)

end FactoryConfig

structure Config where
  sanitizer : Policy
  limits : Limits
  grants : GrantPolicy
  audit : Audit.Config
  cache : CacheConfig
  factory : FactoryConfig
deriving DecidableEq, Repr

namespace Config

def standard : Config := ⟨.standard, .standard, .standard, .standard, .standard, .standard⟩

instance : Inhabited Config := ⟨standard⟩

def toJson (c : Config) : Json :=
  .obj [("sanitizer", c.sanitizer.toJson), ("limits", c.limits.toJson), ("grants", c.grants.toJson),
    ("audit", c.audit.toJson), ("cache", c.cache.toJson), ("factory", c.factory.toJson)]

def decoder : Decoder Config := .record <|
  Config.mk <$> .withDefault "sanitizer" .standard Policy.decoder
    <*> .withDefault "limits" .standard Limits.decoder
    <*> .withDefault "grants" .standard GrantPolicy.decoder
    <*> .withDefault "audit" .standard Audit.Config.decoder
    <*> .withDefault "cache" .standard (.record CacheConfig.fields)
    <*> .withDefault "factory" .standard (.record FactoryConfig.fields)

def mustBePositive (setting : String) : String := s!"{setting} must be greater than 0"

/-- The first risk level, mildest first, one of whose budgets is zero. -/
def emptyBudget? (l : Limits) : Option RiskLevel :=
  [RiskLevel.safe, .low, .medium, .high].find? fun risk =>
    let b := l.budgetsFor risk
    b.cpuTimeMs = 0 || b.wallClockMs = 0 || b.memoryBytes = 0

def fault? (c : Config) : Option String :=
  if c.sanitizer.maxSourceBytes = 0 then some (mustBePositive "sanitizer.max_source_bytes")
  else if c.limits.fuelPerMs = 0 then some (mustBePositive "limits.fuel_per_ms")
  else if c.limits.maxConcurrent = 0 then some (mustBePositive "limits.max_concurrent")
  else
    match emptyBudget? c.limits with
    | some risk => some s!"limits for {risk.name} risk must all be greater than 0"
    | none =>
      if c.audit.queueCapacity = 0 then some (mustBePositive "audit.queue_capacity")
      else if c.cache.maxEntries = 0 then some (mustBePositive "cache.max_entries")
      else none

end Config

end StrategyHost
