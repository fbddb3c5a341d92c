import StrategyHost.Proofs.Audit.Uninterrupted
import StrategyHost.Proofs.Gateway.Changes
import StrategyHost.Proofs.Gateway.Confinement

/-!
# One outcome for every load

Each load of a gateway leaves one event, of a kind that tells whether what was to be loaded is to blame (`LoadOutcome.event`), and no
other event is of these kinds. A gateway keeps what its loads came to (`Gateway.outcomes`), and `Scene.Tells` says that its events are
just the events of these. That holds in every scene that requests bring about, in whatever parts and order (`Scene.Served`). Main
statement: `Scene.Served.outcomes`, which also finds the outcomes among the records of an audit logger that has lost none.
-/

namespace StrategyHost

def LoadError.isBlame : LoadError → Bool
  | rejected .. | invalidParameter .. | unknownIdentity _ => true
  | _ => false

namespace LoadOutcome

/-- The outcome is that of a load on a tracker of its own. -/
def IsOf (r : Registry) (o : LoadOutcome) : Prop :=
  ∃ load sanitizer progress, Loader.LoadOf r o.descriptor load ∧
    load.run.run ⟨.new o.descriptor.cacheKey, sanitizer⟩ = (o.result, progress) ∧ o.state = progress.tracker.state

def isBlamed (o : LoadOutcome) : Bool :=
  match o.result with
  | .ok _ => false
  | .error e => e.isBlame

theorem isBlamed_iff {o : LoadOutcome} : o.isBlamed = true ↔ ∃ e, o.result = .error e ∧ e.isBlame = true := by
  unfold isBlamed
  cases o.result <;> simp

theorem kind_event (o : LoadOutcome) : o.event.kind = if o.isBlamed then .validationRejected else .loadAttempt := by
  unfold isBlamed event Loader.event
  cases o.result with
  | ok l => rfl
  | error e => cases e <;> rfl

theorem isOutcome_event (o : LoadOutcome) : o.event.kind.isOutcome = true := by
  rw [kind_event]
  cases o.isBlamed <;> rfl

theorem kind_event_eq_rejected (o : LoadOutcome) : o.event.kind = .validationRejected ↔ o.isBlamed = true := by
  rw [kind_event]
  cases o.isBlamed <;> simp

end LoadOutcome

namespace Scene
variable {s s' : Scene}

def outcomeEvents (s : Scene) : List Audit.Event := s.events.filter (·.kind.isOutcome)

/-- The events of a gateway tell what its loads came to. -/
structure Tells (s : Scene) : Prop where
  loads : s.gateway.outcomes.length = s.gateway.loads
  events : s.outcomeEvents = s.gateway.outcomes.map LoadOutcome.event
  real : ∀ o ∈ s.gateway.outcomes, o.IsOf s.gateway.registry

end Scene

theorem Act.runLoading_eq (s : Scene) (d : Descriptor) (load : Loading Loaded) :
    (runLoading d load).run s =
      let (result, progress) := load.run.run ⟨.new d.cacheKey, s.gateway.sanitizer⟩
      let o : LoadOutcome := ⟨d, progress.tracker.state, result⟩
      (result, { s with
        gateway := { s.gateway with
          sanitizer := progress.sanitizer
          loads := s.gateway.loads + 1
          outcomes := s.gateway.outcomes ++ [o] }
        events := s.events ++ [o.event] }) := rfl

namespace Scene
variable {s s' : Scene}

theorem Tells.change (tells : s.Tells) (change : s.Change s') : s'.Tells := by
  cases change with
  | @load d load of =>
    rw [Act.runLoading_eq]
    obtain ⟨result, progress, ran⟩ : ∃ result progress, load.run.run ⟨.new d.cacheKey, s.gateway.sanitizer⟩ = (result, progress) :=
      ⟨_, _, rfl⟩
    let o : LoadOutcome := ⟨d, progress.tracker.state, result⟩
    rw [ran]
    refine ⟨?_, ?_, ?_⟩
    · rw [List.length_append, tells.loads]
      rfl
    · have told : [o.event].filter (·.kind.isOutcome) = [o.event] := by simp [o.isOutcome_event]
      rw [outcomeEvents, List.filter_append, told, List.map_append, ← tells.events]
      rfl
    · exact List.forall_mem_append.2 ⟨tells.real, List.forall_mem_singleton.2 ⟨load, _, progress, of, ran, rfl⟩⟩
  | note other =>
    refine ⟨tells.loads, ?_, tells.real⟩
    rw [outcomeEvents, List.filter_append, ← tells.events]
    simp [other, outcomeEvents]
  | cache _ => exact ⟨tells.loads, tells.events, tells.real⟩
  | world _ => exact ⟨tells.loads, tells.events, tells.real⟩

/-- What requests bring about in a gateway, in whatever parts and order, while others change what they share with it. -/
inductive Served (cfg : Config) (registry : Registry) : Scene → Prop
  | start (world : Surroundings) : Served cfg registry ⟨{ Gateway.new cfg with registry }, world, []⟩
  | elsewhere {s : Scene} (world : Surroundings) (served : Served cfg registry s) : Served cfg registry { s with world }
  | move {s : Scene} (m : Move) (served : Served cfg registry s) : Served cfg registry (m.act.run s).2

end Scene

theorem Move.changes_act (m : Move) : Act.Changes m.act := by
  cases m with
  | lookup d =>
    refine .bind (Act.changes_lookup d) fun l => ?_
    cases l <;> exact .pure _
  | look key => exact .bind (Act.changes_readShared key) fun _ => .pure _
  | load d snapshot? => exact .bind (Act.changes_loadFrom d snapshot?) fun _ => .pure _
  | keep t restored h => exact .bind (Act.changes_keep t restored h) fun _ => .pure _
  | fail t => exact .bind (Act.changes_stepCache _) fun _ => .pure _
  | release t => exact .bind (Act.changes_modifyCache _) fun _ => .pure _
  | create d => exact .bind (Act.changes_create d) fun _ => .pure _
  | createMany d n => exact .bind (Act.changes_createMany d n) fun _ => .pure _
  | race d disturbance => exact .bind (Act.changes_race d disturbance) fun _ => .pure _
  | createFromStore tier identity version => exact .bind (Act.changes_createFromStore tier identity version) fun _ => .pure _
  | invalidate identity version => exact .bind (Act.changes_invalidate identity version) fun _ => .pure _
  | shutdown => exact .bind Act.changes_shutdown fun _ => .pure _

namespace Scene
variable {cfg : Config} {registry : Registry} {s : Scene} {α : Type} {x : Act α}

theorem Tells.run (tells : s.Tells) (changes : Act.Changes x) (lazy : s.gateway.config.factory.eagerValidation = false) :
    (x.run s).2.Tells := by
  have all := changes s lazy
  generalize (x.run s).2 = s' at all ⊢
  induction all with
  | refl => exact tells
  | tail _ change ih => exact ih.change change

theorem Served.tells (lazy : cfg.factory.eagerValidation = false) (served : Served cfg registry s) :
    s.gateway.config = cfg ∧ s.gateway.registry = registry ∧ s.Tells := by
  induction served with
  | start world => exact ⟨rfl, rfl, rfl, rfl, List.forall_mem_nil _⟩
  | elsewhere world _ ih =>
    obtain ⟨config, known, tells⟩ := ih
    exact ⟨config, known, tells.loads, tells.events, tells.real⟩
  | move m _ ih =>
    obtain ⟨config, known, tells⟩ := ih
    have changes := m.changes_act _ (config ▸ lazy)
    exact ⟨(Act.Changes.config_eq changes).trans config, (Act.Changes.registry_eq changes).trans known,
      tells.run m.changes_act (config ▸ lazy)⟩

end Scene

/-! ### Records -/

def Audit.Record.Tells (r : Audit.Record) (e : Audit.Event) : Prop := ∃ now, r = e.recordAt now

/-- The calls of a logger that goes on behind the chain `base` have brought it the events in their order, each at some time; they are
over, and it has neither dropped nor lost any. -/
structure Audit.Logger.Took (base : List Sealed) (events : List Event) (b : Busy) : Prop where
  ran : ∃ config trail, trail.records = base ∧ Ran config trail b
  accepted : verifyFrom none base = .ok ()
  brought : List.Forall₂ Record.Tells b.begun events
  rest : b.AtRest
  dropped : b.logger.dropped = 0
  lost : b.logger.lost = 0

/-- So a logger does that is given the events one by one and whose trail takes them. -/
theorem Audit.Logger.took_recordAll (config : Config) (trail : Trail) (accepted : verifyFrom none trail.records = .ok ())
    (takes : trail.failing = 0) (now : Instant) (events : List Event) :
    ∃ b, b.logger = (start config trail).recordAll now events ∧ Took trail.records events b := by
  obtain ⟨sent, leads⟩ := leads_recordAll now events (start config trail) [] []
  have free := (free_start config takes).recordAll now events
  refine ⟨_, rfl, ⟨config, trail, rfl, leads.ran .start⟩, accepted, ?_, ⟨rfl, nofun, rfl, rfl⟩, free.dropped, free.lost⟩
  exact List.forall₂_map_left_iff.2 (List.forall₂_same.2 fun e _ => ⟨now, rfl⟩)

theorem Audit.Record.Tells.kind {r : Audit.Record} {e : Audit.Event} (h : r.Tells e) : r.eventType = e.kind := by
  obtain ⟨now, rfl⟩ := h
  rfl

/-- The outcomes of a gateway's loads are, each once, the outcomes among the records of its logger. -/
theorem Scene.Tells.recorded {s : Scene} (tells : s.Tells) {base : List Audit.Sealed} {b : Audit.Logger.Busy}
    (took : Audit.Logger.Took base s.events b) :
    ∃ records, ((b.logger.recordsAfter base).filter (·.eventType.isOutcome)).Perm records ∧
      List.Forall₂ (fun r o => r.Tells (LoadOutcome.event o)) records s.gateway.outcomes := by
  obtain ⟨config, trail, rfl, ran⟩ := took.ran
  obtain ⟨perm, -⟩ := ran.recordsAfter_perm took.accepted took.rest took.dropped took.lost
  refine ⟨b.begun.filter (·.eventType.isOutcome), perm.filter _, ?_⟩
  have kinds := List.rel_filter (p := fun r : Audit.Record => r.eventType.isOutcome) (q := fun e : Audit.Event => e.kind.isOutcome)
    (fun r e told => Iff.of_eq (congrArg (·.isOutcome = true) (Audit.Record.Tells.kind told))) took.brought
  exact List.forall₂_map_right_iff.1 (tells.events ▸ kinds)

/-! ### The whole -/

theorem Act.run_create_hit {s : Scene} {d : Descriptor} {h : Handle} (hit : ((lookup d).run s).1 = .hit h) :
    (create d).run s = (.ok h, ((lookup d).run s).2) := by
  rw [create, run_bind, hit]
  rfl

/-- Without trial runs, the events about outcomes are, one for each load of a gateway and in their order, those of what the loads came
to, and a rejection just if what was to be loaded is to blame. A further load adds what it came to itself. A request that the cache
answers leaves all that as it is. The records of the outcomes in an audit logger that has lost nothing tell the same. -/
theorem Scene.Served.outcomes {cfg : Config} {registry : Registry} {s : Scene} (lazy : cfg.factory.eagerValidation = false)
    (served : Served cfg registry s) :
    (s.gateway.outcomes.length = s.gateway.loads ∧ s.outcomeEvents = s.gateway.outcomes.map LoadOutcome.event ∧
      ∀ o ∈ s.gateway.outcomes, o.IsOf registry ∧
        (o.event.kind = .validationRejected ↔ ∃ e, o.result = .error e ∧ e.isBlame = true)) ∧
    (∀ d load, let after := (Act.runLoading d load).run s
      ∃ o : LoadOutcome, o.descriptor = d ∧ o.result = after.1 ∧ after.2.gateway.loads = s.gateway.loads + 1 ∧
        after.2.gateway.outcomes = s.gateway.outcomes ++ [o] ∧ after.2.events = s.events ++ [o.event]) ∧
    (∀ d h, ((Act.lookup d).run s).1 = .hit h → ((Act.create d).run s).1 = .ok h ∧
      ((Act.create d).run s).2.gateway.loads = s.gateway.loads ∧
      ((Act.create d).run s).2.gateway.outcomes = s.gateway.outcomes ∧ ((Act.create d).run s).2.events = s.events) ∧
    ∀ base b, Audit.Logger.Took base s.events b →
      (∃ records, ((b.logger.recordsAfter base).filter (·.eventType.isOutcome)).Perm records ∧
        List.Forall₂ (fun r o => r.Tells (LoadOutcome.event o)) records s.gateway.outcomes) ∧
      (b.logger.recordsAfter base).countP (·.eventType.isOutcome) = s.gateway.loads := by
  obtain ⟨-, known, tells⟩ := served.tells lazy
  refine ⟨⟨tells.loads, tells.events, fun o ho => ?_⟩, ?_, ?_, ?_⟩
  · exact ⟨known ▸ tells.real o ho, o.kind_event_eq_rejected.trans LoadOutcome.isBlamed_iff⟩
  · intro d load after
    exact ⟨⟨d, _, after.1⟩, rfl, rfl, rfl, rfl, rfl⟩
  · intro d h hit
    rw [Act.run_create_hit hit]
    exact ⟨rfl, rfl, rfl, rfl⟩
  · intro base b took
    obtain ⟨records, perm, told⟩ := tells.recorded took
    refine ⟨⟨records, perm, told⟩, ?_⟩
    rw [List.countP_eq_length_filter, perm.length_eq, told.length_eq, tells.loads]

/-- A strategy that is loaded and one that is not known leave an event each, and a request for the first one leaves no more. -/
theorem Scene.Served.outcomes_twice :
    let d : Descriptor := ⟨"momentum", 1, .predefined, "system"⟩
    let unknown : Descriptor := ⟨"nobody", 1, .predefined, "system"⟩
    let s : Scene := ((Move.create d).act.run ((Move.create unknown).act.run ⟨.new .standard, ⟨none, none, 0⟩, []⟩).2).2
    Config.standard.factory.eagerValidation = false ∧ Served .standard .builtin s ∧ s.gateway.loads = 2 ∧
      s.gateway.outcomes.map (fun o => (o.descriptor.identity, o.isBlamed)) = [("nobody", true), ("momentum", false)] ∧
      ((Act.create d).run s).2.gateway.cache.hits = 1 ∧
      s.gateway.outcomes.length = s.gateway.loads ∧ s.outcomeEvents = s.gateway.outcomes.map LoadOutcome.event ∧
      (∃ b, Audit.Logger.Took [] s.events b) ∧
      ∀ base b, Audit.Logger.Took base s.events b →
        (b.logger.recordsAfter base).countP (·.eventType.isOutcome) = s.gateway.loads := by
  intro d unknown s
  have served : Served .standard .builtin s := .move (.create d) (.move (.create unknown) (.start ⟨none, none, 0⟩))
  obtain ⟨⟨loads, events, -⟩, -, -, recorded⟩ := served.outcomes rfl
  have counted : s.gateway.loads = 2 ∧
      s.gateway.outcomes.map (fun o => (o.descriptor.identity, o.isBlamed)) = [("nobody", true), ("momentum", false)] ∧
      ((Act.create d).run s).2.gateway.cache.hits = 1 := by
    decide +kernel
  obtain ⟨b, -, took⟩ := Audit.Logger.took_recordAll .standard ⟨[], 0⟩ rfl rfl ⟨0, 0⟩ s.events
  exact ⟨rfl, served, counted.1, counted.2.1, counted.2.2, loads, events, ⟨b, took⟩, fun base b took => (recorded base b took).2⟩

end StrategyHost
