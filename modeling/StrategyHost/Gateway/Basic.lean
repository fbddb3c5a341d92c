import StrategyHost.Cache.Basic
import StrategyHost.Handle
import StrategyHost.Load.Loader

/-! # The gateway

A `Gateway` turns descriptors into handles: it asks its cache, loads what is missing with the loader of the tier, and
grants each strategy what its verdict allows. Several gateways may share `Surroundings`: a tier of snapshots, a store,
and the numbers of instances. An operation is an `Act`, which also gathers the audit events that it causes.

Snapshots of the shared tier are never trusted further than their parameters (`Act.loadFrom`): whatever the tier holds,
the verdict and the grant come from the descriptor. -/

namespace StrategyHost

structure Gateway where
  config : Config
  registry : Registry
  sanitizer : Sanitizer
  /-- The loads that were started, restored strategies included. -/
  loads : Nat
  /-- What each of them came to. The program only counts them; this is kept to tell which event is whose. -/
  outcomes : List LoadOutcome
  cache : Cache Handle

def Gateway.new (config : Config) : Gateway :=
  ⟨config, .builtin, .new Wasm.plainComponent config.sanitizer, 0, [], .new config.cache⟩

structure Surroundings where
  tier? : Option SharedTier
  store? : Option StrategyStore
  nextInstance : Nat
deriving Inhabited

structure Scene where
  gateway : Gateway
  world : Surroundings
  events : List Audit.Event

abbrev Act (α : Type) := StateM Scene α

namespace Act
variable {α : Type}

def emit (e : Audit.Event) : Act Unit := modify fun s => { s with events := s.events ++ [e] }

def modifyCache (f : Cache Handle → Cache Handle) : Act Unit :=
  modify fun s => { s with gateway := { s.gateway with cache := f s.gateway.cache } }

def stepCache (f : Cache Handle → α × Cache Handle) : Act α := do
  let s ← get
  let (a, cache) := f s.gateway.cache
  set { s with gateway := { s.gateway with cache } }
  return a

def config : Act Config := return (← get).gateway.config

/-! ## The shared tier -/

/-- The event of a part of the cache that does not work. -/
def degradedEvent (identity : String) (version : Nat) (actor operation error : String) : Audit.Event :=
  .make .cacheDegraded identity version actor [("operation", .str operation), ("error", .str error)]

def degrade (key : CacheKey) (operation error : String) : Act Unit :=
  emit (degradedEvent key.identity key.version Audit.systemActor operation error)

/-- The snapshot of a key, if the tier holds one of the same content. -/
def readShared (key : CacheKey) : Act (Option Snapshot) := do
  match (← get).world.tier? with
  | none => return none
  | some tier =>
    match tier.get key.identity key.version with
    | .error e =>
      degrade key "shared_read" e.message
      return none
    | .ok none => return none
    | .ok (some bytes) =>
      match Snapshot.decode bytes with
      | .error f =>
        degrade key "shared_decode" f.message
        return none
      | .ok snapshot =>
        if snapshot.contentHash = key.contentHash then
          modifyCache Cache.countSharedHit
          return some snapshot
        else return none

def snapshotOf? (h : Handle) : Option Snapshot :=
  h.params?.map fun params => ⟨h.key.identity, h.key.version, h.key.contentHash, h.tier, params, h.verdict⟩

/-- Changes the shared tier, or notes that it cannot be reached. -/
def changeShared (key : CacheKey) (operation : String) (f : SharedTier → Except StoreError SharedTier) : Act Unit := do
  let s ← get
  match s.world.tier? with
  | none => return ()
  | some tier =>
    match f tier with
    | .ok tier => set { s with world := { s.world with tier? := some tier } }
    | .error e => degrade key operation e.message

def writeShared (h : Handle) : Act Unit := do
  match snapshotOf? h with
  | none => return ()
  | some snapshot =>
    changeShared h.key "shared_write" fun tier => tier.put h.key.identity h.key.version snapshot.encode

/-! ## Loading -/

/-- Runs a load on a tracker of its own and leaves its event. -/
def runLoading (d : Descriptor) (load : Loading Loaded) : Act (Except LoadError Loaded) := do
  let s ← get
  let (result, progress) := load.run.run ⟨.new d.cacheKey, s.gateway.sanitizer⟩
  let outcome : LoadOutcome := ⟨d, progress.tracker.state, result⟩
  set
    { s with
      gateway := { s.gateway with
        sanitizer := progress.sanitizer
        loads := s.gateway.loads + 1
        outcomes := s.gateway.outcomes ++ [outcome] } }
  emit outcome.event
  return result

def probe : MarketData := ⟨"PROBE", []⟩

/-- The event of a strategy that breaks a budget in its trial run. -/
def probeEvent (d : Descriptor) (b : Breach) : Audit.Event :=
  .make .validationRejected d.identity d.version d.actor
    [("stage", .str "eager_validation"), ("budget", .str b.budget.name), ("limit", .ofNat b.limit),
     ("observed", .ofNat b.observed)]

/-- Runs a strategy on no data. Only the breach of a budget counts against it. -/
def tryOut (d : Descriptor) (h : Handle) : Act (Except LoadError Unit) := do
  let (result, events) := h.invoke d.actor probe
  events.forM emit
  match result with
  | .error (.limitExceeded b) =>
    emit (probeEvent d b)
    return .error (.limitExceeded b)
  | _ => return .ok ()

/-- The grant of a loaded strategy: what it asks for, as far as its risk level allows. -/
def grantFor (config : Config) (d : Descriptor) (l : Loaded) : Grant :=
  let risk := l.verdict.riskLevel
  config.grants.grant d.identity d.version risk l.runnable.requested (config.limits.budgetsFor risk)

def issue (config : Config) (number : Nat) (d : Descriptor) (l : Loaded) : Handle :=
  ⟨number, d.cacheKey, d.tier, l.runnable, grantFor config d l, l.verdict, l.params?, config.limits⟩

def handleOf (d : Descriptor) (l : Loaded) : Act Handle := do
  let s ← get
  set { s with world := { s.world with nextInstance := s.world.nextInstance + 1 } }
  return issue s.gateway.config s.world.nextInstance d l

/-- Hands out a loaded strategy, after a trial run if there is to be one. -/
def handOut (d : Descriptor) (l : Loaded) : Act (Except LoadError Handle) := do
  let h ← handleOf d l
  if (← config).factory.eagerValidation then return (← tryOut d h).map fun _ => h
  else return .ok h

/-- Loads a descriptor from what it holds itself. -/
def loadAnew (d : Descriptor) : Act (Except LoadError Handle) := do
  match ← runLoading d (Loader.load (← get).gateway.registry d) with
  | .ok l => handOut d l
  | .error e => return .error e

/-- Loads a descriptor, from a snapshot if there is one that can be used. -/
def loadFrom (d : Descriptor) (snapshot? : Option Snapshot) : Act (Except LoadError Handle) := do
  match if d.tier.isShareable then snapshot? else none with
  | none => loadAnew d
  | some snapshot =>
    match ← runLoading d (Loader.restore (← get).gateway.registry d snapshot) with
    | .ok l => handOut d l
    | .error _ => loadAnew d

/-- Keeps a handle, unless its load was overtaken, and shares it if it is new to the shared tier. -/
def keep (t : Ticket) (restored : Bool) (h : Handle) : Act Unit := do
  let kept ← stepCache fun c => c.finish t (.loaded h)
  if kept && h.tier.isShareable && !restored then writeShared h

/-- The load of a ticket, from the look at the shared tier to its release. -/
def runLoad (d : Descriptor) (t : Ticket) : Act (Except LoadError Handle) := do
  let snapshot? ← if d.tier.isShareable then readShared t.key else pure none
  let result ← loadFrom d snapshot?
  match result with
  | .ok h => keep t snapshot?.isSome h
  | .error _ => let _ ← stepCache fun c => c.finish t .failed
  modifyCache fun c => c.release t
  return result

/-! ## Creating handles -/

def lookup (d : Descriptor) : Act (Lookup Handle) := stepCache fun c => c.lookup d.cacheKey

def noteClosed (d : Descriptor) : Act Unit :=
  emit (degradedEvent d.identity d.version d.actor "lookup" "strategy cache has been shut down")

/-- The result of a lookup. `running` has the results of the loads that lookups may have joined. -/
def answer (d : Descriptor) (running : List (Nat × Except LoadError Handle)) :
    Lookup Handle → Act (Except LoadError Handle)
  | .closed => do
    noteClosed d
    loadFrom d none
  | .hit h => return .ok h
  | .began t => runLoad d t
  | .joined id => return (running.lookup id).getD (.error (.internal "load task failed"))

/-- The results of lookups that all happened before any load ran. -/
def answerAll (d : Descriptor) : List (Nat × Except LoadError Handle) → List (Lookup Handle) →
    Act (List (Except LoadError Handle))
  | _, [] => return []
  | running, l :: ls => do
    let result ← answer d running l
    let running := match l with
      | .began t => (t.id, result) :: running
      | _ => running
    return result :: (← answerAll d running ls)

def create (d : Descriptor) : Act (Except LoadError Handle) := do answer d [] (← lookup d)

/-- `n` requests for one descriptor that come at the same time. -/
def createMany (d : Descriptor) (n : Nat) : Act (List (Except LoadError Handle)) := do
  let lookups ← (List.replicate n ()).mapM fun _ => lookup d
  answerAll d [] lookups

/-! ## Stores -/

/-- Reads from a store, again after a failure that may pass, `left` times more at most. `attempt` counts from one. -/
def readStore {σ : Type} (operation identity : String) (read : σ → Except StoreError α × σ) :
    Nat → Nat → σ → Except LoadError α × σ
  | left, attempt, store =>
    match read store with
    | (.ok a, store) => (.ok a, store)
    | (.error (.notFound _), store) => (.error (.unknownIdentity identity), store)
    | (.error e, store) =>
      let failure := LoadError.storeUnavailable
        s!"{operation} for {identity} failed after {attempt} attempt(s): {e.message}"
      match left with
      | 0 => (.error failure, store)
      | left + 1 =>
        if e.isRetryable then readStore operation identity read left (attempt + 1) store else (.error failure, store)

def fetch (operation identity : String) (read : StrategyStore → Except StoreError α × StrategyStore) (absent : String) :
    Act (Except LoadError α) := do
  let s ← get
  match s.world.store? with
  | none => return .error (.storeUnavailable absent)
  | some store =>
    let attempts := max s.gateway.config.factory.storeAttempts 1
    let (result, store) := readStore operation identity read (attempts - 1) 1 store
    set { s with world := { s.world with store? := some store } }
    return result

def fetchPayload (tier : Tier) (identity : String) (version : Nat) : Act (Except LoadError Payload) := do
  match tier with
  | .predefined => return .ok .predefined
  | .configured =>
    return (← fetch "read_config" identity (·.readConfig identity) "no config store configured").map .configured
  | .dynamic =>
    return (← fetch "read_source" identity (·.readSource identity version) "no source store configured").map .dynamic

def createFromStore (tier : Tier) (identity : String) (version : Nat) : Act (Except LoadError Handle) := do
  match ← fetchPayload tier identity version with
  | .ok payload => create ⟨identity, version, payload, Audit.systemActor⟩
  | .error e => return .error e

/-! ## Invalidation and the end -/

/-- Drops every entry of a pair, here and in the shared tier, and tells how many there were here. Running loads of the
pair leave no entry. -/
def invalidate (identity : String) (version : Nat) : Act Nat := do
  let dropped ← stepCache fun c => c.invalidate (identity, version)
  changeShared ⟨identity, version, ""⟩ "shared_delete" fun tier => tier.delete identity version
  if dropped.removed + dropped.abandoned = 0 then return 0
  modifyCache Cache.countInvalidation
  emit (.make .invalidated identity version Audit.systemActor
    [("removed", .ofNat dropped.removed), ("abandoned_loads", .ofNat dropped.abandoned)])
  return dropped.removed

def shutdown : Act Unit := modifyCache Cache.shutdown

end Act

end StrategyHost
