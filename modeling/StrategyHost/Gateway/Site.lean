import StrategyHost.Audit.Logger
import StrategyHost.Gateway.Race

/-! # Sites

A `Site` has several gateways side by side, as processes have them, and what is common to all: a shared tier, a store,
and the numbers of instances. Each gateway has an audit trail of its own. -/

namespace StrategyHost

structure Site where
  /-- Each gateway with its audit logger. -/
  gateways : List (Gateway × Audit.Logger)
  usesTier : Bool
  usesStore : Bool
  tier : SharedTier
  store : StrategyStore
  nextInstance : Nat

namespace Site
variable {α : Type}

def start (config : Config) (gateways : Nat) (usesTier usesStore : Bool) : Site :=
  let logger := Audit.Logger.start .standard ⟨[], 0⟩
  ⟨List.replicate gateways (Gateway.new config, logger), usesTier, usesStore, .empty, .empty, 0⟩

/-- What a gateway sees of the site. -/
def surroundings (s : Site) : Surroundings :=
  ⟨if s.usesTier then some s.tier else none, if s.usesStore then some s.store else none, s.nextInstance⟩

/-- Lets the gateway with the number `n` act, at the time `now`. -/
def act (s : Site) (now : Instant) (n : Nat) (a : Act α) : Option (α × Site) :=
  (s.gateways[n]?).map fun (g, logger) =>
    let (result, scene) := a.run ⟨g, s.surroundings, []⟩
    (result, { s with
      gateways := s.gateways.set n (scene.gateway, logger.recordAll now scene.events)
      tier := scene.world.tier?.getD s.tier
      store := scene.world.store?.getD s.store
      nextInstance := scene.world.nextInstance })

/-- The records of all gateways that are not yet in an earlier state of the site. -/
def recordsSince (s earlier : Site) : List Audit.Record :=
  (s.gateways.zip earlier.gateways).flatMap fun ((_, new), (_, old)) =>
    (new.trail.records.drop old.trail.records.length).map Audit.Sealed.record

end Site

end StrategyHost
