import StrategyHost.Load.Tracker
import StrategyHost.Runnable
import StrategyHost.Sanitizer.Memo
import StrategyHost.Snapshot

/-! # Loaders

Each trust tier has a loader of its own, which turns a descriptor into a `Loaded` strategy: built-in ones take the
defaults of their schema, configured ones bind foreign parameters to it, and foreign code is analysed before it is
compiled. `Loader.load` picks the loader by tier, and `Loader.restore` rebuilds a trusted strategy from a snapshot; the
snapshot gives parameters only, and the verdict always comes from the descriptor. Every load leaves one event
(`Loader.event`). -/

namespace StrategyHost

structure Loaded where
  runnable : Runnable
  verdict : Verdict
  /-- The bound parameters of a trusted strategy. -/
  params? : Option Params

structure LoadProgress where
  tracker : Tracker
  sanitizer : Sanitizer

abbrev Loading (α : Type) := ExceptT LoadError (StateM LoadProgress) α

namespace Loading
variable {α : Type}

def advance (next : LoadState) : Loading Unit := do
  let p ← get
  match p.tracker.advance next with
  | .ok t => set { p with tracker := t }
  | .error e => throw e

def reject (e : LoadError) : Loading α := do
  let p ← get
  let (e, t) := p.tracker.reject e
  set { p with tracker := t }
  throw e

/-- A result without which the load is rejected. -/
def orReject : Except LoadError α → Loading α
  | .ok a => pure a
  | .error e => reject e

/-- A result without which the load fails. -/
def orFail : Except LoadError α → Loading α
  | .ok a => pure a
  | .error e => throw e

def analyze (source : String) : Loading Verdict := do
  let p ← get
  let (v, s) := p.sanitizer.analyze source
  set { p with sanitizer := s }
  return v

end Loading

namespace Loader

def build (entry : Entry) (bound : Bound) (verdict : Verdict) : Loading Loaded := do
  let strategy ← Loading.orFail (entry.build bound)
  Loading.advance .instantiated
  return ⟨.native strategy, verdict, some bound.toParams⟩

/-- Loads a built-in strategy with the defaults of its schema. -/
def loadPredefined (r : Registry) (d : Descriptor) : Loading Loaded := do
  Loading.advance .validating
  let entry ← Loading.orReject (r.get d.identity)
  Loading.advance .accepted
  build entry entry.schema.defaults (.trusted .predefined d.contentHash)

/-- Binds parameters to the schema of a strategy and builds it. -/
def bindAndBuild (r : Registry) (d : Descriptor) (params : Params) (verdict : Verdict) : Loading Loaded := do
  Loading.advance .validating
  let (entry, bound) ← Loading.orReject do
    let entry ← r.get d.identity
    return (entry, ← entry.schema.bind params)
  Loading.advance .accepted
  build entry bound verdict

def loadConfigured (r : Registry) (d : Descriptor) (params : Params) : Loading Loaded :=
  bindAndBuild r d params (.trusted .configured d.contentHash)

/-- Rebuilds a strategy from the parameters of a snapshot, if the snapshot was taken of the same content. -/
def restoreConfigured (r : Registry) (d : Descriptor) (params : Params) (snapshotHash : String) : Loading Loaded := do
  if snapshotHash ≠ d.contentHash then
    Loading.advance .validating
    Loading.reject (.internal s!"snapshot content does not match {(← get).tracker.key.toString}")
  else bindAndBuild r d params (.trusted d.tier d.contentHash)

/-- Analyses foreign code and compiles it for the sandbox. -/
def loadDynamic (d : Descriptor) (source : String) : Loading Loaded := do
  Loading.advance .validating
  let verdict ← Loading.analyze source
  if verdict.isRejected then Loading.reject (.rejected d.identity verdict)
  else
    Loading.advance .accepted
    match Guest.compile source with
    | .error refusal => throw (.instantiation refusal.message)
    | .ok guest =>
      Loading.advance .instantiated
      return ⟨.guest d.identity guest, verdict, none⟩

def load (r : Registry) (d : Descriptor) : Loading Loaded :=
  match d.payload with
  | .predefined => loadPredefined r d
  | .configured params => loadConfigured r d params
  | .dynamic source => loadDynamic d source

def restore (r : Registry) (d : Descriptor) (snapshot : Snapshot) : Loading Loaded :=
  restoreConfigured r d snapshot.params snapshot.contentHash

/-- The kind of the event of a failed load: what the input is to blame for is a rejection. -/
def failureKind : LoadError → Audit.EventKind
  | .rejected .. | .invalidParameter .. | .unknownIdentity _ => .validationRejected
  | _ => .loadAttempt

/-- What the event of a rejected source says about its verdict. -/
def rejectionDetail : LoadError → List (String × Json)
  | .rejected _ v => [("risk_level", .str v.riskLevel.name), ("findings", .arr (v.findings.map Finding.toJson))]
  | _ => []

def event (d : Descriptor) (state : LoadState) (result : Except LoadError Loaded) : Audit.Event :=
  let common := [("tier", Json.str d.tier.name), ("content_hash", .str d.contentHash), ("state", .str state.name)]
  match result with
  | .ok l =>
    .make .loadAttempt d.identity d.version d.actor <| common ++
      [("outcome", .str l.verdict.outcome.name), ("risk_level", .str l.verdict.riskLevel.name),
       ("findings", .arr (l.verdict.findings.map Finding.toJson))]
  | .error e =>
    .make (failureKind e) d.identity d.version d.actor <| common ++
      [("error", .str e.message), ("kind", .str e.kind)] ++ rejectionDetail e

end Loader

/-- What a load came to. -/
structure LoadOutcome where
  descriptor : Descriptor
  state : LoadState
  result : Except LoadError Loaded

def LoadOutcome.event (o : LoadOutcome) : Audit.Event := Loader.event o.descriptor o.state o.result

end StrategyHost
