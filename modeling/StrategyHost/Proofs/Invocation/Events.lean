import StrategyHost.Gateway.Basic
import StrategyHost.Proofs.Invocation.Guest
import StrategyHost.Proofs.Load

/-! # What an invocation gives and records

An invocation gives only what its grant covers (`Handle.covers_invokeAlong`). It records a breach of a budget just when it fails
with one, and a refusal just when it fails with one, if its deadline does not pass (`Act.issue_accounts`); else the breach of the
deadline takes the place of the failure, and a refusal stays recorded. The supervisor records for the caller, the grant for nobody
(`Handle.actor_invokeAlong_iff`). -/

namespace StrategyHost
open Audit (Event EventKind)
variable {α : Type}

def Audit.eventsOf (kind : EventKind) (events : List Event) : List Event := events.filter (·.kind = kind)

/-- An event reports a breach of the strategy with the given key. -/
structure Audit.Event.ReportsBreach (e : Event) (key : CacheKey) (b : Breach) : Prop where
  identity : e.identity = key.identity
  version : e.version = key.version
  budget : e.detail.get? "budget" = some (.str b.budget.name)
  limit : e.detail.get? "limit" = some (.ofNat b.limit)
  observed : e.detail.get? "observed" = some (.ofNat b.observed)

/-- An event reports that a capability was refused to the strategy with the given key. -/
structure Audit.Event.ReportsDenial (e : Event) (key : CacheKey) (c : Capability) : Prop where
  identity : e.identity = key.identity
  version : e.version = key.version
  capability : e.detail.get? "capability" = some (.str c.name)

theorem Scope.detail_breachEvent (s : Scope) (b : Breach) (forced : Bool) : (s.breachEvent b forced).detail =
    .obj [("budget", .str b.budget.name), ("forced", .bool forced), ("limit", .ofNat b.limit),
      ("observed", .ofNat b.observed)] := by
  simp [-String.lt_iff_ltb, breachEvent, Event.make, Json.sorted, Json.sortedFields, sortFields, insertField, Json.ofNat]

theorem Grant.detail_denialEvent (g : Grant) (c : Capability) : (g.denialEvent c).detail =
    .obj [("allowed", g.allowed.toJson.sorted), ("capability", .str c.name), ("risk_level", g.riskLevel.toJson)] := by
  simp [-String.lt_iff_ltb, denialEvent, Event.make, Json.sorted, Json.sortedFields, sortFields, insertField, RiskLevel.toJson]

theorem Scope.reportsBreach_breachEvent {s : Scope} {key : CacheKey} (identity : s.identity = key.identity)
    (version : s.version = key.version) (b : Breach) (forced : Bool) : (s.breachEvent b forced).ReportsBreach key b :=
  ⟨identity, version, by simp [detail_breachEvent, Json.get?], by simp [detail_breachEvent, Json.get?],
    by simp [detail_breachEvent, Json.get?]⟩

theorem Grant.reportsDenial_denialEvent {g : Grant} {key : CacheKey} (identity : g.identity = key.identity)
    (version : g.version = key.version) (c : Capability) : (g.denialEvent c).ReportsDenial key c :=
  ⟨identity, version, by simp [detail_denialEvent, Json.get?]⟩

/-! ### The supervisor -/

def RunError.breach? : RunError → Option Breach
  | .limitExceeded b => some b
  | _ => none

def Scope.breaches (s : Scope) (forced : Bool) (b? : Option Breach) : List Event :=
  b?.toList.map fun b => s.breachEvent b forced

def breachOf? (result : Except RunError α) : Option Breach := (failure? result).bind RunError.breach?

def denialOf? (result : Except RunError α) : Option Denial := (failure? result).bind RunError.denial?

theorem finished_fst (scope : Scope) (r : Except RunError α) : (finished scope r).1 = r := by
  rcases r with (_ | _ | _ | _ | _ | _) | _ <;> rfl

theorem breaches_conclude (scope : Scope) (budgets : Budgets) (e : Ending α) (course : Course) :
    ∃ forced, (conclude scope budgets e course).2 = scope.breaches forced (breachOf? (conclude scope budgets e course).1) := by
  have ofFinished (r : Except RunError α) : (finished scope r).2 = scope.breaches false (breachOf? (finished scope r).1) := by
    rcases r with (_ | _ | _ | _ | _ | _) | _ <;> rfl
  cases course with
  | closed | crowded | unstarted => exact ⟨false, rfl⟩
  | inTime => exact ⟨false, ofFinished e.result⟩
  | late time =>
    refine ⟨false, ?_⟩
    unfold conclude
    dsimp only
    split <;> rfl
  | abandoned time => exact ⟨true, rfl⟩

theorem denialOf?_conclude (scope : Scope) (budgets : Budgets) (e : Ending α) {course : Course}
    (meets : course.meetsDeadline = true) :
    denialOf? (conclude scope budgets e course).1 = if course.runsJob then denialOf? e.result else none := by
  cases course with
  | closed | unstarted => rfl
  | inTime => exact congrArg denialOf? (finished_fst scope e.result)
  | crowded | late | abandoned => cases meets

theorem result_of_conclude {scope : Scope} {budgets : Budgets} {e : Ending α} {course : Course} {a : α}
    (h : (conclude scope budgets e course).1 = .ok a) : e.result = .ok a := by
  cases course with
  | closed | crowded | unstarted | abandoned => cases h
  | inTime => exact (finished_fst scope e.result).symm.trans h
  | late time =>
    unfold conclude at h
    dsimp only at h
    split at h <;> cases h

namespace Handle
variable (h : Handle) (course : Course) (pace : Pace) (actor : String) (data : MarketData)

theorem invoke_eq_invokeAlong : ∃ course, h.invoke actor data = h.invokeAlong course .estimated actor data := ⟨_, rfl⟩

/-- What the run of an invocation comes to: it records the refusal that it fails with, and it gives what its grant covers. -/
theorem holds_run : (Session.law h.grant).Holds (.start h.grant (.start h.grant.budgets pace)) h.grant.Covers (h.run pace data) :=
  h.runnable.governs_invoke h.limits data _ ⟨rfl, nofun⟩

/-- An invocation gives only what the grant covers. -/
theorem covers_invokeAlong {set : SignalSet} (given : (h.invokeAlong course pace actor data).1 = .ok set) :
    h.grant.Covers set := by
  have ended : (ending (h.run pace data).1).result = .ok set := result_of_conclude given
  have covered := (h.holds_run pace data).result
  revert ended covered
  rcases (h.run pace data).1 with (e | _) | set'
  · nofun
  · nofun
  · rintro ⟨⟩ covered
    exact covered set rfl

theorem denialOf?_ending (result : Except Halt SignalSet) :
    denialOf? (ending result).result = (failure? result).bind Halt.denial? := by
  rcases result with (e | _) | set <;> rfl

theorem events_run : (h.run pace data).2.events = h.grant.refusals (denialOf? (ending (h.run pace data).1).result) := by
  rw [denialOf?_ending]
  exact (h.holds_run pace data).allows

theorem events_invokeAlong : ∃ forced, (h.invokeAlong course pace actor data).2 =
    h.grant.refusals (if course.runsJob then denialOf? (ending (h.run pace data).1).result else none) ++
      (h.scope actor).breaches forced (breachOf? (h.invokeAlong course pace actor data).1) := by
  obtain ⟨forced, recorded⟩ := breaches_conclude (h.scope actor) h.grant.budgets (ending (h.run pace data).1) course
  refine ⟨forced, ?_⟩
  rw [invokeAlong, close]
  dsimp only
  rw [recorded, h.events_run pace data]
  split <;> rfl

end Handle

/-! ### Records and failures -/

theorem eventsOf_permissionDenied (g : Grant) (s : Scope) (d? : Option Denial) (forced : Bool) (b? : Option Breach) :
    Audit.eventsOf .permissionDenied (g.refusals d? ++ s.breaches forced b?) = g.refusals d? := by
  cases d? <;> cases b? <;> rfl

theorem eventsOf_resourceLimitExceeded (g : Grant) (s : Scope) (d? : Option Denial) (forced : Bool) (b? : Option Breach) :
    Audit.eventsOf .resourceLimitExceeded (g.refusals d? ++ s.breaches forced b?) = s.breaches forced b? := by
  cases d? <;> cases b? <;> rfl

/-- The records of an invocation account for its result: one for a breach and one for a refusal, and none without. -/
structure Handle.Accounts (h : Handle) (onTime : Bool) (result : Except RunError SignalSet) (events : List Event) : Prop where
  breach : ∀ b, result = .error (.limitExceeded b) →
    ∃ e, Audit.eventsOf .resourceLimitExceeded events = [e] ∧ e.ReportsBreach h.key b
  noBreach : (∀ b, result ≠ .error (.limitExceeded b)) → Audit.eventsOf .resourceLimitExceeded events = []
  denial : onTime = true → ∀ d, result = .error (.denied d) →
    ∃ e, Audit.eventsOf .permissionDenied events = [e] ∧ e.ReportsDenial h.key d.capability
  noDenial : onTime = true → (∀ d, result ≠ .error (.denied d)) → Audit.eventsOf .permissionDenied events = []

theorem breachOf?_eq_none {result : Except RunError α} (none : ∀ b, result ≠ .error (.limitExceeded b)) :
    breachOf? result = .none := by
  rcases result with e | a
  · cases e with
    | limitExceeded b => exact absurd rfl (none b)
    | _ => rfl
  · rfl

theorem denialOf?_eq_none {result : Except RunError α} (none : ∀ d, result ≠ .error (.denied d)) :
    denialOf? result = .none := by
  rcases result with e | a
  · cases e with
    | denied d => exact absurd rfl (none d)
    | _ => rfl
  · rfl

theorem Handle.accounts_invokeAlong {h : Handle} (identity : h.grant.identity = h.key.identity)
    (version : h.grant.version = h.key.version) (course : Course) (pace : Pace) (actor : String) (data : MarketData) :
    h.Accounts course.meetsDeadline (h.invokeAlong course pace actor data).1 (h.invokeAlong course pace actor data).2 := by
  obtain ⟨forced, events⟩ := h.events_invokeAlong course pace actor data
  have meant (meets : course.meetsDeadline = true) : denialOf? (h.invokeAlong course pace actor data).1 =
      if course.runsJob then denialOf? (ending (h.run pace data).1).result else none :=
    denialOf?_conclude (h.scope actor) h.grant.budgets _ meets
  rw [events]
  constructor
  · intro b failed
    rw [eventsOf_resourceLimitExceeded, failed]
    exact ⟨_, rfl, Scope.reportsBreach_breachEvent (s := h.scope actor) rfl rfl b forced⟩
  · intro none
    rw [eventsOf_resourceLimitExceeded, breachOf?_eq_none none]
    rfl
  · intro meets refusal failed
    rw [eventsOf_permissionDenied, ← meant meets, failed]
    exact ⟨_, rfl, Grant.reportsDenial_denialEvent identity version refusal.capability⟩
  · intro meets none
    rw [eventsOf_permissionDenied, ← meant meets, denialOf?_eq_none none]
    rfl

/-- Every invocation of every handle that a gateway issues, of a built-in strategy or a guest, is accounted for. -/
theorem Act.issue_accounts (config : Config) (number : Nat) (d : Descriptor) (l : Loaded) (course : Course) (pace : Pace)
    (actor : String) (data : MarketData) :
    (issue config number d l).Accounts course.meetsDeadline ((issue config number d l).invokeAlong course pace actor data).1
      ((issue config number d l).invokeAlong course pace actor data).2 :=
  Handle.accounts_invokeAlong rfl rfl course pace actor data

/-! ### Callers -/

theorem Scope.actor_of_mem_breaches {s : Scope} {forced : Bool} {b? : Option Breach} {e : Event} (h : e ∈ s.breaches forced b?) :
    e.actor = s.actor := by
  obtain ⟨b, -, rfl⟩ := List.mem_map.1 h
  rfl

/-- The records of an invocation name its caller, except for those of a refusal: these name the caller only if that is the system
itself. -/
theorem Handle.actor_invokeAlong_iff (h : Handle) (course : Course) (pace : Pace) (actor : String) (data : MarketData) :
    (∀ e ∈ (h.invokeAlong course pace actor data).2, e.actor = actor) ↔
      actor = Audit.systemActor ∨ Audit.eventsOf .permissionDenied (h.invokeAlong course pace actor data).2 = [] := by
  obtain ⟨forced, events⟩ := h.events_invokeAlong course pace actor data
  rw [events, eventsOf_permissionDenied, List.forall_mem_append]
  have named : ∀ e ∈ (h.scope actor).breaches forced (breachOf? (h.invokeAlong course pace actor data).1), e.actor = actor :=
    fun e he => Scope.actor_of_mem_breaches he
  rw [and_iff_left named]
  cases if course.runsJob then denialOf? (ending (h.run pace data).1).result else none with
  | none => simp [Grant.refusals]
  | some d => simp [Grant.refusals, Grant.denialEvent, Event.make, eq_comm]

/-- A built-in strategy that may not log is refused to, and the record does not name the caller. -/
theorem Handle.not_actor_invokeAlong : ¬ ∀ (h : Handle) (course : Course) (pace : Pace) (actor : String) (data : MarketData),
    ∀ e ∈ (h.invokeAlong course pace actor data).2, e.actor = actor := by
  intro always
  let config : Config := { Config.standard with grants := ⟨[], [], [], []⟩ }
  let d : Descriptor := ⟨"momentum", 1,
    .configured [("ema_fast_period", .int 2), ("ema_slow_period", .int 3), ("rsi_period", .int 2)], "system"⟩
  let data : MarketData := .flat "BTC" ⟨1704067200, 0⟩ (List.replicate 3 (.ofInt 100))
  have misnamed : (Registry.builtin.build d.identity d.payload.params).toOption.any (fun b =>
      ((Act.issue config 0 d (.trusted d b)).invokeAlong .inTime .estimated "alice" data).2.any (·.actor ≠ "alice")) = true := by
    decide +kernel
  obtain ⟨b, -, misnamed⟩ := (Option.any_eq_true _ _).1 misnamed
  obtain ⟨e, recorded, other⟩ := List.any_eq_true.1 misnamed
  exact absurd (always _ .inTime .estimated "alice" data e recorded) (by simpa using other)

end StrategyHost
