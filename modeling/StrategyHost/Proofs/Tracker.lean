import Mathlib.Data.List.Chain
import StrategyHost.Proofs.Bound
import StrategyHost.Proofs.Law

/-!
# What a tracker tells of a load

The history of a tracker leads from the request to its state, and each of its steps is one that the life of a load has. Requests
keep it so, whether they are granted or refused (`Coherent.attemptAll`), and so nothing follows a terminal state.

A load takes no step that is refused. What stops it before it is accepted (`Task.Refused`) leaves the tracker rejected, what stops it
later (`Task.Broken`) leaves it accepted, and there is nothing else that could stop it (`Task.run_cases`, and with it `ended_load` and
`ended_restore`). Main statement: `Loader.tracker_tells`.
-/

namespace StrategyHost

/-! ### Histories -/

theorem LoadState.not_isTerminal_of_canAdvance {s next : LoadState} (h : s.canAdvance next = true) : s.isTerminal = false := by
  cases s <;> cases next <;> first | rfl | cases h

namespace Tracker
variable {t : Tracker} {key : CacheKey} {next : LoadState}

def attemptAll (t : Tracker) (requests : List LoadState) : Tracker := requests.foldl attempt t

theorem advance_of_canAdvance (legal : t.state.canAdvance next = true) :
    t.advance next = .ok ⟨t.key, next, t.history ++ [next]⟩ := if_pos legal

theorem advance_of_not_canAdvance (refused : t.state.canAdvance next = false) : t.advance next = .error (t.illegal next) :=
  if_neg (by simp [refused])

theorem attempt_of_error {e : LoadError} (refused : t.advance next = .error e) : t.attempt next = t := by
  rw [attempt, refused]

theorem attempt_of_canAdvance (legal : t.state.canAdvance next = true) :
    t.attempt next = ⟨t.key, next, t.history ++ [next]⟩ := by
  rw [attempt, advance_of_canAdvance legal]

/-- The history leads from the request by legal steps to the state. -/
structure Coherent (t : Tracker) : Prop where
  start : t.history.head? = some .requested
  legal : t.history.IsChain fun s next => s.canAdvance next = true
  state : t.history.getLast? = some t.state

theorem coherent_new (key : CacheKey) : (new key).Coherent := ⟨rfl, .singleton _, rfl⟩

namespace Coherent
variable (h : t.Coherent)
include h

theorem attempt (next : LoadState) : (t.attempt next).Coherent := by
  cases legal : t.state.canAdvance next with
  | false =>
    rw [attempt_of_error (advance_of_not_canAdvance legal)]
    exact h
  | true =>
    rw [attempt_of_canAdvance legal]
    refine ⟨?_, List.isChain_append.2 ⟨h.legal, .singleton _, fun s last s' first => ?_⟩, List.getLast?_concat⟩
    · rw [List.head?_append, h.start, Option.some_or]
    · rw [h.state] at last
      cases last
      cases first
      exact legal

theorem attemptAll (requests : List LoadState) : (t.attemptAll requests).Coherent := by
  induction requests generalizing t with
  | nil => exact h
  | cons next requests ih => exact ih (h.attempt next)

theorem eq_nil_of_isTerminal {before after : List LoadState} {s : LoadState} (history : t.history = before ++ s :: after)
    (terminal : s.isTerminal = true) : after = [] := by
  cases after with
  | nil => rfl
  | cons next after =>
    have legal := h.legal
    rw [history, List.isChain_append_cons_cons] at legal
    rw [LoadState.not_isTerminal_of_canAdvance legal.2.1] at terminal
    cases terminal

end Coherent

/-- The trackers of a load that was rejected, of one that got no further than being accepted, and of one that went well. -/
def rejected (key : CacheKey) : Tracker := ⟨key, .rejected, [.requested, .validating, .rejected]⟩

def accepted (key : CacheKey) : Tracker := ⟨key, .accepted, [.requested, .validating, .accepted]⟩

def instantiated (key : CacheKey) : Tracker := ⟨key, .instantiated, [.requested, .validating, .accepted, .instantiated]⟩

end Tracker

/-! ### Loads -/

namespace Registry
variable {r : Registry} {identity : String} {e : LoadError}

theorem get_eq_error : r.get identity = .error e ↔ (∀ entry ∈ r, entry.identity ≠ identity) ∧ .unknownIdentity identity = e := by
  rw [get]
  cases found : r.find? (·.identity == identity) with
  | none =>
    simpa using fun _ : _ = e => List.find?_eq_none.1 found
  | some entry =>
    have same : entry.identity = identity := by simpa using List.find?_some found
    simpa using fun unlisted => absurd same (unlisted entry (List.mem_of_find?_eq_some found))

theorem get_of_unlisted (unlisted : ∀ entry ∈ r, entry.identity ≠ identity) : r.get identity = .error (.unknownIdentity identity) :=
  get_eq_error.2 ⟨unlisted, rfl⟩

end Registry

namespace Loader

/-- What a loader is asked for: a strategy of the host with its defaults, with given parameters, or with those of a snapshot that
names its content; or foreign code. -/
inductive Task where
  | predefined
  | configured (params : Params)
  | restored (params : Params) (contentHash : String)
  | dynamic (source : String)

namespace Task

def run (r : Registry) (d : Descriptor) : Task → Loading Loaded
  | predefined => loadPredefined r d
  | configured params => loadConfigured r d params
  | restored params contentHash => restoreConfigured r d params contentHash
  | dynamic source => loadDynamic d source

/-- How a strategy of the host gets its bound parameters from its schema. A snapshot of other content is not used, and foreign code
has no schema. -/
def binder? (d : Descriptor) : Task → Option (Schema → Except LoadError Bound)
  | predefined => some fun schema => .ok schema.defaults
  | configured params => some fun schema => schema.bind params
  | restored params contentHash => if contentHash = d.contentHash then some fun schema => schema.bind params else none
  | dynamic _ => none

section
variable (r : Registry) (d : Descriptor) (key : CacheKey) (s : Sanitizer)

/-- What a load is refused for. -/
inductive Refused : Task → LoadError → Prop
  | unknown {task bind} (native : task.binder? d = some bind) (unlisted : ∀ entry ∈ r, entry.identity ≠ d.identity) :
    Refused task (.unknownIdentity d.identity)
  | unbound {task bind entry e} (native : task.binder? d = some bind) (known : r.get d.identity = .ok entry)
      (misfit : bind entry.schema = .error e) :
    Refused task e
  | foreign {params contentHash} (other : contentHash ≠ d.contentHash) :
    Refused (.restored params contentHash) (.internal s!"snapshot content does not match {key.toString}")
  | policy {source} (judged : (s.analyze source).1.isRejected = true) :
    Refused (.dynamic source) (.rejected d.identity (s.analyze source).1)

/-- What a load fails with after it was accepted. -/
inductive Broken : Task → LoadError → Prop
  | unbuilt {task bind entry bound e} (native : task.binder? d = some bind) (known : r.get d.identity = .ok entry)
      (fits : bind entry.schema = .ok bound) (fails : entry.build bound = .error e) :
    Broken task e
  | uncompiled {source refusal} (judged : (s.analyze source).1.isRejected = false)
      (fails : Guest.compile source = .error refusal) :
    Broken (.dynamic source) (.instantiation refusal.message)

/-- What is known of a load once it is over. -/
inductive Ended (task : Task) : Except LoadError Loaded → Tracker → Prop
  | refused {e} (why : task.Refused r d key s e) : Ended task (.error e) (.rejected key)
  | broken {e} (why : task.Broken r d s e) : Ended task (.error e) (.accepted key)
  | loaded {l} : Ended task (.ok l) (.instantiated key)

end

variable {r : Registry} {d : Descriptor} {key : CacheKey} {s : Sanitizer} {task : Task} {e : LoadError}

/-! #### Strategies of the host -/

theorem run_build (entry : Entry) (bound : Bound) (verdict : Verdict) (key : CacheKey) (s : Sanitizer) :
    (build entry bound verdict).run.run ⟨.accepted key, s⟩ =
      match entry.build bound with
      | .error e => (.error e, ⟨.accepted key, s⟩)
      | .ok strategy => (.ok ⟨.native strategy, verdict, some bound.toParams⟩, ⟨.instantiated key, s⟩) := by
  rw [build]
  cases entry.build bound <;> rfl

theorem run_bindAndBuild (r : Registry) (d : Descriptor) (params : Params) (verdict : Verdict) (key : CacheKey) (s : Sanitizer) :
    (bindAndBuild r d params verdict).run.run ⟨.new key, s⟩ =
      match r.get d.identity with
      | .error e => (.error e, ⟨.rejected key, s⟩)
      | .ok entry =>
        match entry.schema.bind params with
        | .error e => (.error e, ⟨.rejected key, s⟩)
        | .ok bound => (build entry bound verdict).run.run ⟨.accepted key, s⟩ := by
  rw [bindAndBuild]
  cases r.get d.identity with
  | error e => rfl
  | ok entry =>
    dsimp only [Bind.bind, Except.bind]
    cases entry.schema.bind params <;> rfl

/-- The loaders of the host differ in how they bind and in their verdict. -/
theorem run_of_binder {bind : Schema → Except LoadError Bound} (native : task.binder? d = some bind) (r : Registry)
    (key : CacheKey) (s : Sanitizer) : ∃ verdict, (task.run r d).run.run ⟨.new key, s⟩ =
      match r.get d.identity with
      | .error e => (.error e, ⟨.rejected key, s⟩)
      | .ok entry =>
        match bind entry.schema with
        | .error e => (.error e, ⟨.rejected key, s⟩)
        | .ok bound => (build entry bound verdict).run.run ⟨.accepted key, s⟩ := by
  cases task with
  | predefined =>
    cases native
    refine ⟨.trusted .predefined d.contentHash, ?_⟩
    rw [run, loadPredefined]
    cases r.get d.identity <;> rfl
  | configured params =>
    cases native
    exact ⟨.trusted .configured d.contentHash, run_bindAndBuild r d params _ key s⟩
  | restored params contentHash =>
    by_cases same : contentHash = d.contentHash
    · rw [binder?, if_pos same] at native
      cases native
      refine ⟨.trusted d.tier d.contentHash, ?_⟩
      rw [run, restoreConfigured, if_neg (not_not.2 same)]
      exact run_bindAndBuild r d params _ key s
    · rw [binder?, if_neg same] at native
      cases native
  | dynamic source => cases native

/-! #### Others -/

theorem run_foreign {params : Params} {contentHash : String} (other : contentHash ≠ d.contentHash) (r : Registry)
    (key : CacheKey) (s : Sanitizer) : ((restored params contentHash).run r d).run.run ⟨.new key, s⟩ =
      (.error (.internal s!"snapshot content does not match {key.toString}"), ⟨.rejected key, s⟩) := by
  rw [run, restoreConfigured, if_pos other]
  rfl

theorem run_dynamic (r : Registry) (d : Descriptor) (source : String) (key : CacheKey) (s : Sanitizer) :
    ((dynamic source).run r d).run.run ⟨.new key, s⟩ =
      match (s.analyze source).1.isRejected, Guest.compile source with
      | true, _ => (.error (.rejected d.identity (s.analyze source).1), ⟨.rejected key, (s.analyze source).2⟩)
      | false, .error refusal => (.error (.instantiation refusal.message), ⟨.accepted key, (s.analyze source).2⟩)
      | false, .ok guest =>
        (.ok ⟨.guest d.identity guest, (s.analyze source).1, none⟩, ⟨.instantiated key, (s.analyze source).2⟩) := by
  simp only [run, loadDynamic, Law.run_bind]
  -- the analysis has run, and its verdict is at hand
  show ((if (s.analyze source).1.isRejected then Loading.reject (.rejected d.identity (s.analyze source).1) else _) :
    Loading Loaded).run.run ⟨⟨key, .validating, [.requested, .validating]⟩, (s.analyze source).2⟩ = _
  cases (s.analyze source).1.isRejected with
  | true => rfl
  | false => cases Guest.compile source <;> rfl

/-! #### The outcomes -/

theorem run_refused (why : task.Refused r d key s e) : ((task.run r d).run.run ⟨.new key, s⟩).1 = .error e ∧
    ((task.run r d).run.run ⟨.new key, s⟩).2.tracker = .rejected key := by
  cases why with
  | unknown native unlisted =>
    obtain ⟨verdict, ran⟩ := run_of_binder native r key s
    simp [ran, Registry.get_of_unlisted unlisted]
  | unbound native known misfit =>
    obtain ⟨verdict, ran⟩ := run_of_binder native r key s
    simp [ran, known, misfit]
  | foreign other => simp [run_foreign other r key s]
  | policy judged => simp [run_dynamic, judged]

theorem run_broken (why : task.Broken r d s e) : ((task.run r d).run.run ⟨.new key, s⟩).1 = .error e ∧
    ((task.run r d).run.run ⟨.new key, s⟩).2.tracker = .accepted key := by
  cases why with
  | unbuilt native known fits fails =>
    obtain ⟨verdict, ran⟩ := run_of_binder native r key s
    simp [ran, known, fits, run_build, fails]
  | uncompiled judged fails => simp [run_dynamic, judged, fails]

theorem ended_of_binder {bind : Schema → Except LoadError Bound} (native : task.binder? d = some bind) :
    task.Ended r d key s ((task.run r d).run.run ⟨.new key, s⟩).1 ((task.run r d).run.run ⟨.new key, s⟩).2.tracker := by
  obtain ⟨verdict, ran⟩ := run_of_binder native r key s
  rw [ran]
  cases known : r.get d.identity with
  | error e =>
    obtain ⟨unlisted, rfl⟩ := Registry.get_eq_error.1 known
    exact .refused (.unknown native unlisted)
  | ok entry =>
    dsimp only
    cases fits : bind entry.schema with
    | error e => exact .refused (.unbound native known fits)
    | ok bound =>
      dsimp only
      rw [run_build]
      cases built : entry.build bound with
      | error e => exact .broken (.unbuilt native known fits built)
      | ok strategy => exact .loaded

/-- A load on a fresh tracker was refused, broke after it was accepted, or went well, and the tracker shows which. -/
theorem run_cases (r : Registry) (d : Descriptor) (key : CacheKey) (s : Sanitizer) (task : Task) :
    task.Ended r d key s ((task.run r d).run.run ⟨.new key, s⟩).1 ((task.run r d).run.run ⟨.new key, s⟩).2.tracker := by
  cases task with
  | predefined => exact ended_of_binder rfl
  | configured params => exact ended_of_binder rfl
  | restored params contentHash =>
    by_cases same : contentHash = d.contentHash
    · exact ended_of_binder (if_pos same)
    · rw [run_foreign same]
      exact .refused (.foreign same)
  | dynamic source =>
    rw [run_dynamic]
    cases judged : (s.analyze source).1.isRejected with
    | true => exact .refused (.policy judged)
    | false =>
      cases compiled : Guest.compile source with
      | error refusal => exact .broken (.uncompiled judged compiled)
      | ok guest => exact .loaded

theorem Ended.refused_or_broken {t : Tracker} (h : task.Ended r d key s (.error e) t) :
    task.Refused r d key s e ∨ task.Broken r d s e := by
  cases h with
  | refused why => exact .inl why
  | broken why => exact .inr why

theorem Ended.eq_instantiated {l : Loaded} {t : Tracker} (h : task.Ended r d key s (.ok l) t) : t = .instantiated key := by
  cases h
  rfl

/-! #### Steps that the life of a load does not have -/

theorem binder_cases {bind : Schema → Except LoadError Bound} (native : task.binder? d = some bind) :
    (bind = fun schema => .ok schema.defaults) ∨ ∃ params, bind = fun schema => schema.bind params := by
  cases task with
  | predefined =>
    cases native
    exact .inl rfl
  | configured params =>
    cases native
    exact .inr ⟨params, rfl⟩
  | restored params contentHash =>
    rw [binder?] at native
    split at native
    · cases native
      exact .inr ⟨params, rfl⟩
    · cases native
  | dynamic source => cases native

theorem Refused.ne_illegal (why : task.Refused r d key s e) (t : Tracker) (next : LoadState) : e ≠ t.illegal next := by
  intro same
  cases why with
  | unknown _ _ => cases same
  | unbound native _ misfit =>
    rcases binder_cases native with rfl | ⟨params, rfl⟩
    · cases misfit
    · obtain ⟨parameter, reason, rfl⟩ := Schema.exists_of_bind misfit
      cases same
  | foreign _ =>
    have texts := congrArg String.toList (LoadError.internal.inj same)
    simp [toString] at texts
  | policy _ => cases same

theorem Broken.build_of_illegal {t : Tracker} {next : LoadState} (why : task.Broken r d s (t.illegal next)) :
    ∃ entry bound, r.get d.identity = .ok entry ∧ entry.build bound = .error (t.illegal next) := by
  generalize reported : t.illegal next = e at why
  cases why with
  | unbuilt _ known _ fails => exact ⟨_, _, known, fails⟩
  | uncompiled _ _ => cases reported

theorem Broken.exists_refusal (why : task.Broken .builtin d s e) : ∃ text, e = .instantiation text := by
  cases why with
  | @unbuilt _ bind entry bound _ native known fits fails =>
    obtain ⟨params, binds⟩ : ∃ params, entry.schema.bind params = .ok bound := by
      rcases binder_cases native with rfl | ⟨params, rfl⟩
      · exact ⟨[], fits ▸ Schema.bind_nothing (Registry.isSound_builtin entry (Registry.mem_of_get known))⟩
      · exact ⟨params, fits⟩
    obtain ⟨strategy, built⟩ := Registry.exists_build known binds
    obtain ⟨entry', known', -, builds⟩ := Registry.build_eq_ok.1 built
    cases known.symm.trans known'
    cases fails.symm.trans builds
  | @uncompiled source refusal _ _ => exact ⟨refusal.message, rfl⟩

end Task

def taskOf : Payload → Task
  | .predefined => .predefined
  | .configured params => .configured params
  | .dynamic source => .dynamic source

/-- A load by tier is a task of the descriptor itself. -/
theorem ended_load (r : Registry) (d : Descriptor) (key : CacheKey) (s : Sanitizer) : (taskOf d.payload).Ended r d key s
    ((load r d).run.run ⟨.new key, s⟩).1 ((load r d).run.run ⟨.new key, s⟩).2.tracker := by
  have same : (taskOf d.payload).run r d = load r d := by
    rw [load]
    cases d.payload <;> rfl
  exact same ▸ Task.run_cases r d key s (taskOf d.payload)

/-- A restore is one of what the snapshot says. -/
theorem ended_restore (r : Registry) (d : Descriptor) (snapshot : Snapshot) (key : CacheKey) (s : Sanitizer) :
    (Task.restored snapshot.params snapshot.contentHash).Ended r d key s
      ((restore r d snapshot).run.run ⟨.new key, s⟩).1 ((restore r d snapshot).run.run ⟨.new key, s⟩).2.tracker :=
  Task.run_cases r d key s _

/-- Whatever is loaded: what a load reports and what its tracker shows agree, and no step of its own is refused. Whatever is asked
of a tracker: it keeps to the life of a load. -/
theorem tracker_tells (r : Registry) (d : Descriptor) (key : CacheKey) (s : Sanitizer) (task : Task) (requests : List LoadState) :
    let ran := (task.run r d).run.run ⟨.new key, s⟩
    let t := (Tracker.new key).attemptAll requests
    ((∀ l, ran.1 = .ok l → ran.2.tracker = .instantiated key) ∧
      (∀ e, task.Refused r d key s e → ran.1 = .error e ∧ ran.2.tracker = .rejected key) ∧
      (∀ e, task.Broken r d s e → ran.1 = .error e ∧ ran.2.tracker = .accepted key) ∧
      (∀ e, ran.1 = .error e → task.Refused r d key s e ∨ task.Broken r d s e) ∧
      ∀ (t' : Tracker) next, ran.1 = .error (t'.illegal next) →
        r ≠ .builtin ∧ ∃ entry bound, r.get d.identity = .ok entry ∧ entry.build bound = .error (t'.illegal next)) ∧
    t.Coherent ∧ (∀ next e, t.advance next = .error e → t.attempt next = t) ∧
      ∀ before state after, t.history = before ++ state :: after → state = .rejected ∨ state = .cached → after = [] := by
  intro ran t
  have ended : task.Ended r d key s ran.1 ran.2.tracker := task.run_cases r d key s
  have coherent : t.Coherent := (Tracker.coherent_new key).attemptAll requests
  have failed : ∀ e, ran.1 = .error e → task.Refused r d key s e ∨ task.Broken r d s e := fun e came =>
    (came ▸ ended).refused_or_broken
  refine ⟨⟨fun l came => (came ▸ ended).eq_instantiated, fun e => Task.run_refused, fun e => Task.run_broken, failed,
    fun t' next came => ?_⟩, coherent, fun next e => Tracker.attempt_of_error, fun before state after history terminal => ?_⟩
  · rcases failed _ came with refused | broken
    · exact absurd rfl (refused.ne_illegal t' next)
    · refine ⟨?_, broken.build_of_illegal⟩
      rintro rfl
      obtain ⟨text, same⟩ := broken.exists_refusal
      cases same
  · refine coherent.eq_nil_of_isTerminal history ?_
    rcases terminal with rfl | rfl <;> rfl

end Loader
end StrategyHost
