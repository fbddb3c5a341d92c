import StrategyHost.Gateway.Basic

/-! # Disturbed requests

`Act.race` makes a request, lets it come as far as its first wait, disturbs it, and then lets it go on. A request that
has to wait has begun or joined a load by then, and nothing is loaded yet. -/

namespace StrategyHost

/-- What happens while a request waits: its strategy is invalidated, the cache is shut down, or the caller goes away and
another one makes the same request. -/
inductive Disturbance where
  | invalidate | shutdown | drop
deriving DecidableEq, Repr

def Disturbance.all : List (String × Disturbance) :=
  [("invalidate", invalidate), ("shutdown", shutdown), ("drop", drop)]

structure Race where
  /-- The request had its answer before the disturbance. -/
  early : Bool
  /-- The number of entries that were invalidated. -/
  removed? : Option Nat
  /-- The cache after the disturbance. -/
  between : Cache Handle
  result : Except LoadError Handle

namespace Act

/-- Whether a request is answered without a wait. Trusted strategies are bound at once where no cache takes part. -/
def isEarly (d : Descriptor) : Lookup Handle → Bool
  | .hit _ => true
  | .closed => d.tier.isShareable
  | _ => false

/-- What a request does before its first wait: its answer if there is no wait. -/
def begin (d : Descriptor) (first : Lookup Handle) : Act (Option (Except LoadError Handle)) := do
  if isEarly d first then return some (← answer d [] first)
  match first with
  | .closed => noteClosed d
  | _ => pure ()
  return none

/-- What a request does after its first wait. A load goes on when its first caller has gone, and a second one joins
it. -/
def resume (d : Descriptor) (first : Lookup Handle) (second? : Option (Lookup Handle)) : Act (Except LoadError Handle) := do
  let result ← match first with
    | .closed => loadFrom d none
    | l => answer d [] l
  match second?, first with
  | some l, .began t => answer d [(t.id, result)] l
  | some l, _ => answer d [] l
  | none, _ => return result

def race (d : Descriptor) (disturbance : Disturbance) : Act Race := do
  let first ← lookup d
  let ready? ← begin d first
  let (removed?, second?) ← match disturbance with
    | .invalidate => do pure (some (← invalidate d.identity d.version), none)
    | .shutdown => do
      shutdown
      pure (none, none)
    | .drop => do pure (none, ← if ready?.isSome then pure none else some <$> lookup d)
  let between := (← get).gateway.cache
  let result ← match ready? with
    | some r => pure r
    | none => resume d first second?
  return ⟨ready?.isSome, removed?, between, result⟩

end Act

end StrategyHost
