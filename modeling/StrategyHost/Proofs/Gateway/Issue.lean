import StrategyHost.Gateway.Race
import StrategyHost.Proofs.Gateway.Shared
import StrategyHost.Proofs.Law

/-! # What a gateway issues

A gateway keeps only handles that it has issued for strategies that were not rejected (`Scene.Under`). Every act upholds that
(`Act.Upholds`), and a request gives no other handles: `Act.upholds_create`, and `Act.upholds_createMany` and `Act.upholds_race`
for requests that meet. -/

namespace StrategyHost
variable {α β : Type}

/-! ### Issued handles -/

/-- A handle as a gateway of a configuration issues it, of a strategy that was not rejected. -/
inductive Handle.Issued (config : Config) : Handle → Prop
  | mk (number : Nat) (d : Descriptor) (l : Loaded) (accepted : l.verdict.isRejected = false) :
    Handle.Issued config (Act.issue config number d l)

/-! ### Accepted loads -/

namespace Loading

/-- Any step may change a load in any way; what matters is its result. -/
def law : Law LoadProgress LoadError := ⟨fun _ => True, fun _ _ _ => True, fun _ => trivial, fun _ _ => trivial⟩

def Gives (x : Loading α) (q : α → Prop) : Prop := law.Governs x q

theorem gives_any (x : Loading α) : x.Gives fun _ => True := fun _ _ => ⟨trivial, trivial, fun _ _ => trivial⟩

theorem gives_reject (e : LoadError) (q : α → Prop) : (reject e : Loading α).Gives q :=
  fun _ _ => .error trivial trivial

theorem gives_throw (e : LoadError) (q : α → Prop) : (throw e : Loading α).Gives q := .throw fun _ => trivial

end Loading

def Loaded.IsAccepted (l : Loaded) : Prop := l.verdict.isRejected = false

namespace Loader
open Law.Governs Loading

theorem gives_build (e : Entry) (b : Bound) {verdict : Verdict} (accepted : verdict.isRejected = false) :
    (build e b verdict).Gives Loaded.IsAccepted :=
  bind (gives_any _) fun _ _ => bind (gives_any _) fun _ _ => .pure accepted

theorem gives_bindAndBuild (r : Registry) (d : Descriptor) (params : Params) {verdict : Verdict}
    (accepted : verdict.isRejected = false) : (bindAndBuild r d params verdict).Gives Loaded.IsAccepted :=
  bind (gives_any _) fun _ _ => bind (gives_any _) fun _ _ => bind (gives_any _) fun _ _ => gives_build _ _ accepted

theorem gives_loadDynamic (d : Descriptor) (source : String) : (loadDynamic d source).Gives Loaded.IsAccepted := by
  refine bind (gives_any _) fun _ _ => bind (gives_any _) fun verdict _ => ?_
  split
  · exact gives_reject _ _
  next accepted =>
    refine bind (gives_any _) fun _ _ => ?_
    split
    · exact gives_throw _ _
    · exact bind (gives_any _) fun _ _ => .pure (Bool.eq_false_iff.2 accepted)

theorem gives_load (r : Registry) (d : Descriptor) : (load r d).Gives Loaded.IsAccepted := by
  unfold load
  split
  · exact bind (gives_any _) fun _ _ => bind (gives_any _) fun _ _ => bind (gives_any _) fun _ _ => gives_build _ _ rfl
  · exact gives_bindAndBuild _ _ _ rfl
  · exact gives_loadDynamic _ _

theorem gives_restore (r : Registry) (d : Descriptor) (snapshot : Snapshot) : (restore r d snapshot).Gives Loaded.IsAccepted := by
  unfold restore restoreConfigured
  split
  · exact bind (gives_any _) fun _ _ => bind (gives_any _) fun _ _ => gives_reject _ _
  · exact gives_bindAndBuild _ _ _ rfl

end Loader

/-! ### What a cache keeps -/

namespace Cache
variable {p : α → Prop} {c : Cache α}

def Keeps (c : Cache α) (p : α → Prop) : Prop := ∀ e ∈ c.entries, p e.value

theorem Keeps.of_subset {c' : Cache α} (h : c.Keeps p) (subset : ∀ e ∈ c'.entries, e ∈ c.entries) : c'.Keeps p :=
  fun e he => h e (subset e he)

theorem Keeps.lookup (h : c.Keeps p) (key : CacheKey) :
    (c.lookup key).2.Keeps p ∧ ∀ a, (c.lookup key).1 = .hit a → p a := by
  unfold Cache.lookup
  split
  · exact ⟨h, nofun⟩
  split
  next e found =>
    have he : p e.value := h e (List.mem_of_find?_eq_some found)
    refine ⟨fun e' he' => ?_, by rintro _ ⟨⟩; exact he⟩
    rcases List.mem_append.1 he' with old | new
    · exact h e' (List.mem_of_mem_filter old)
    · obtain rfl := List.mem_singleton.1 new
      exact he
  next =>
    split
    · exact ⟨h, nofun⟩
    · exact ⟨h.of_subset fun e he => congrArg entries (begin_snd c key) ▸ he, nofun⟩

theorem Keeps.evict (h : c.Keeps p) : c.evict.Keeps p := h.of_subset fun _ => List.mem_of_mem_drop

theorem Keeps.insert (h : c.Keeps p) (key : CacheKey) {a : α} (ha : p a) : (c.insert key a).Keeps p := by
  unfold Cache.insert
  split
  · intro e' he'
    obtain ⟨e, he, rfl⟩ := List.mem_map.1 he'
    split
    · exact ha
    · exact h e he
  · refine Keeps.evict fun e he => ?_
    rcases List.mem_append.1 he with old | new
    · exact h e old
    · obtain rfl := List.mem_singleton.1 new
      exact ha

theorem Keeps.finish (h : c.Keeps p) (t : Ticket) {load : LoadEnd α} (ha : ∀ a, load = .loaded a → p a) :
    (c.finish t load).2.Keeps p := by
  unfold Cache.finish
  split
  · exact h
  · exact h
  · dsimp only
    split
    · exact h
    · exact Keeps.insert (c := c.settle t) h t.key (ha _ rfl)

theorem Keeps.invalidate (h : c.Keeps p) (pair : Pair) : (c.invalidate pair).2.Keeps p :=
  h.of_subset fun _ => List.mem_of_mem_filter

end Cache

/-! ### Acts -/

/-- A gateway at work under a configuration, with the built-in strategies, keeps only what it has issued. -/
structure Scene.Under (s : Scene) (cfg : Config) : Prop where
  config : s.gateway.config = cfg
  registry : s.gateway.registry = .builtin
  cache : s.gateway.cache.Keeps (Handle.Issued cfg)

namespace Act
variable {cfg : Config} {x : Act α} {f : α → Act β} {p q : α → Prop} {r : β → Prop}

/-- An act leaves a gateway at work under its configuration, and its result has the property `q`. -/
def Upholds (cfg : Config) (x : Act α) (q : α → Prop) : Prop :=
  ∀ s : Scene, s.Under cfg → (x.run s).2.Under cfg ∧ q (x.run s).1

namespace Upholds

theorem pure {a : α} (ha : q a) : Upholds cfg (Pure.pure a) q := fun _ hs => ⟨hs, ha⟩

theorem bind (hx : Upholds cfg x p) (hf : ∀ a, p a → Upholds cfg (f a) r) : Upholds cfg (x >>= f) r :=
  fun s hs => hf _ (hx s hs).2 _ (hx s hs).1

theorem get : Upholds cfg MonadState.get (·.Under cfg) := fun _ hs => ⟨hs, hs⟩

theorem put {s : Scene} (hs : s.Under cfg) : Upholds cfg (set s) fun _ => True := fun _ _ => ⟨hs, trivial⟩

theorem forM {γ : Type} {g : γ → Act Unit} (h : ∀ c, Upholds cfg (g c) fun _ => True) (cs : List γ) :
    Upholds cfg (cs.forM g) fun _ => True := by
  induction cs with
  | nil => exact pure trivial
  | cons c cs ih => exact bind (h c) fun _ _ => ih

theorem mapM {γ : Type} {g : γ → Act α} (h : ∀ c, Upholds cfg (g c) q) (cs : List γ) :
    Upholds cfg (cs.mapM g) fun as => ∀ a ∈ as, q a := by
  induction cs with
  | nil => exact pure (List.forall_mem_nil _)
  | cons c cs ih =>
    rw [List.mapM_cons]
    exact bind (h c) fun a ha => bind ih fun as has => pure (List.forall_mem_cons.2 ⟨ha, has⟩)

end Upholds

open Upholds

def GivesIssued (cfg : Config) (result : Except LoadError Handle) : Prop := ∀ h, result = .ok h → h.Issued cfg

theorem givesIssued_error (e : LoadError) : GivesIssued cfg (.error e) := by rintro h ⟨⟩

theorem upholds_emit (e : Audit.Event) : Upholds cfg (emit e) fun _ => True :=
  fun _ hs => ⟨⟨hs.config, hs.registry, hs.cache⟩, trivial⟩

theorem upholds_modifyCache {f : Cache Handle → Cache Handle}
    (h : ∀ c, c.Keeps (Handle.Issued cfg) → (f c).Keeps (Handle.Issued cfg)) : Upholds cfg (modifyCache f) fun _ => True :=
  fun _ hs => ⟨⟨hs.config, hs.registry, h _ hs.cache⟩, trivial⟩

theorem upholds_stepCache {f : Cache Handle → α × Cache Handle}
    (h : ∀ c, c.Keeps (Handle.Issued cfg) → (f c).2.Keeps (Handle.Issued cfg) ∧ q (f c).1) : Upholds cfg (stepCache f) q :=
  fun _ hs => ⟨⟨hs.config, hs.registry, (h _ hs.cache).1⟩, (h _ hs.cache).2⟩

theorem upholds_readShared (key : CacheKey) : Upholds cfg (readShared key) fun _ => True := by
  refine bind get fun s _ => ?_
  split
  · exact pure trivial
  split
  · exact bind (upholds_emit _) fun _ _ => pure trivial
  · exact pure trivial
  · split
    · exact bind (upholds_emit _) fun _ _ => pure trivial
    · split
      · exact bind (upholds_modifyCache fun _ h => h) fun _ _ => pure trivial
      · exact pure trivial

theorem upholds_changeShared (key : CacheKey) (operation : String) (f : SharedTier → Except StoreError SharedTier) :
    Upholds cfg (changeShared key operation f) fun _ => True := by
  refine bind get fun s hs => ?_
  split
  · exact pure trivial
  · split
    · exact put ⟨hs.config, hs.registry, hs.cache⟩
    · exact upholds_emit _

theorem upholds_writeShared (h : Handle) : Upholds cfg (writeShared h) fun _ => True := by
  unfold writeShared
  split
  · exact pure trivial
  · exact upholds_changeShared _ _ _

theorem upholds_runLoading (d : Descriptor) {load : Loading Loaded} (gives : load.Gives Loaded.IsAccepted) :
    Upholds cfg (runLoading d load) fun result => ∀ l, result = .ok l → l.IsAccepted :=
  fun _ hs => ⟨⟨hs.config, hs.registry, hs.cache⟩, (gives _ trivial).result⟩

theorem upholds_tryOut (d : Descriptor) (h : Handle) : Upholds cfg (tryOut d h) fun _ => True := by
  refine bind (forM upholds_emit _) fun _ _ => ?_
  split
  · exact bind (upholds_emit _) fun _ _ => pure trivial
  · exact pure trivial

theorem upholds_handOut (d : Descriptor) {l : Loaded} (accepted : l.IsAccepted) : Upholds cfg (handOut d l) (GivesIssued cfg) := by
  have made : Upholds cfg (handleOf d l) (Handle.Issued cfg) := fun s hs =>
    ⟨⟨hs.config, hs.registry, hs.cache⟩, hs.config ▸ .mk s.world.nextInstance d l accepted⟩
  have asked : Upholds cfg config fun _ => True := bind get fun _ _ => pure trivial
  refine bind made fun h issued => bind asked fun _ _ => ?_
  split
  · refine bind (upholds_tryOut d h) fun tried _ => pure fun h' ok => ?_
    obtain ⟨-, -, rfl⟩ := map_eq_ok.1 ok
    exact issued
  · exact pure (by rintro _ ⟨⟩; exact issued)

theorem upholds_loadAnew (d : Descriptor) : Upholds cfg (loadAnew d) (GivesIssued cfg) := by
  refine bind get fun _ _ => bind (upholds_runLoading d (Loader.gives_load _ d)) fun result accepted => ?_
  split
  · exact upholds_handOut d (accepted _ rfl)
  · exact pure (givesIssued_error _)

theorem upholds_loadFrom (d : Descriptor) (snapshot? : Option Snapshot) :
    Upholds cfg (loadFrom d snapshot?) (GivesIssued cfg) := by
  unfold loadFrom
  cases (if d.tier.isShareable then snapshot? else none) with
  | none => exact upholds_loadAnew d
  | some snapshot =>
    refine bind get fun _ _ => bind (upholds_runLoading d (Loader.gives_restore _ d snapshot)) fun result accepted => ?_
    split
    · exact upholds_handOut d (accepted _ rfl)
    · exact upholds_loadAnew d

theorem upholds_keep (t : Ticket) (restored : Bool) {h : Handle} (issued : h.Issued cfg) :
    Upholds cfg (keep t restored h) fun _ => True := by
  have kept : Upholds cfg (stepCache fun c => c.finish t (.loaded h)) fun _ => True :=
    upholds_stepCache fun c hc => ⟨hc.finish t (by rintro _ ⟨⟩; exact issued), trivial⟩
  refine bind kept fun kept _ => ?_
  split
  · exact upholds_writeShared h
  · exact pure trivial

theorem upholds_fail (t : Ticket) : Upholds cfg (stepCache fun c => c.finish t .failed) fun _ => True :=
  upholds_stepCache fun _ hc => ⟨hc.finish t (by rintro _ ⟨⟩), trivial⟩

theorem upholds_release (t : Ticket) : Upholds cfg (modifyCache fun c => c.release t) fun _ => True :=
  upholds_modifyCache fun _ hc => hc

theorem upholds_runLoad (d : Descriptor) (t : Ticket) : Upholds cfg (runLoad d t) (GivesIssued cfg) := by
  have close {result : Except LoadError Handle} (issued : GivesIssued cfg result) :
      Upholds cfg (modifyCache (fun c => c.release t) >>= fun _ => Pure.pure result) (GivesIssued cfg) :=
    bind (upholds_release t) fun _ _ => pure issued
  unfold runLoad
  -- what follows the look at the shared tier
  extract_lets rest
  have rest (snapshot? : Option Snapshot) : Upholds cfg (rest snapshot?) (GivesIssued cfg) := by
    refine bind (upholds_loadFrom d snapshot?) fun result issued => ?_
    cases result with
    | ok h => exact bind (upholds_keep t _ (issued h rfl)) fun _ _ => close issued
    | error e => exact bind (upholds_fail t) fun _ _ => close issued
  split
  · exact bind (upholds_readShared t.key) fun snapshot? _ => rest snapshot?
  · exact rest none

/-! ### Requests -/

def HitsIssued (cfg : Config) (l : Lookup Handle) : Prop := ∀ h, l = .hit h → h.Issued cfg

theorem upholds_lookup (d : Descriptor) : Upholds cfg (lookup d) (HitsIssued cfg) :=
  upholds_stepCache fun _ hc => hc.lookup d.cacheKey

theorem upholds_noteClosed (d : Descriptor) : Upholds cfg (noteClosed d) fun _ => True := upholds_emit _

def RunningIssued (cfg : Config) (running : List (Nat × Except LoadError Handle)) : Prop := ∀ r ∈ running, GivesIssued cfg r.2

theorem upholds_answer (d : Descriptor) {running : List (Nat × Except LoadError Handle)} (loads : RunningIssued cfg running)
    {l : Lookup Handle} (hit : HitsIssued cfg l) : Upholds cfg (answer d running l) (GivesIssued cfg) := by
  cases l with
  | closed => exact bind (upholds_noteClosed d) fun _ _ => upholds_loadFrom d none
  | hit h => exact pure (by rintro _ ⟨⟩; exact hit h rfl)
  | began t => exact upholds_runLoad d t
  | joined id =>
    refine pure ?_
    cases found : running.lookup id with
    | none => exact givesIssued_error _
    | some result =>
      obtain ⟨before, after, rfl, -⟩ := List.lookup_eq_some_iff.1 found
      exact loads (id, result) (by simp)

theorem upholds_create (d : Descriptor) : Upholds cfg (create d) (GivesIssued cfg) :=
  bind (upholds_lookup d) fun _ hit => upholds_answer d (List.forall_mem_nil _) hit

theorem upholds_answerAll (d : Descriptor) {running : List (Nat × Except LoadError Handle)} (loads : RunningIssued cfg running)
    {ls : List (Lookup Handle)} (hits : ∀ l ∈ ls, HitsIssued cfg l) :
    Upholds cfg (answerAll d running ls) fun results => ∀ result ∈ results, GivesIssued cfg result := by
  induction ls generalizing running with
  | nil => exact pure (List.forall_mem_nil _)
  | cons l ls ih =>
    obtain ⟨hit, hits⟩ := List.forall_mem_cons.1 hits
    refine bind (upholds_answer d loads hit) fun result issued => ?_
    refine bind (ih ?_ hits) fun results all => pure (List.forall_mem_cons.2 ⟨issued, all⟩)
    split
    · exact List.forall_mem_cons.2 ⟨issued, loads⟩
    · exact loads

theorem upholds_createMany (d : Descriptor) (n : Nat) :
    Upholds cfg (createMany d n) fun results => ∀ result ∈ results, GivesIssued cfg result :=
  bind (mapM (fun _ => upholds_lookup d) _) fun _ hits => upholds_answerAll d (List.forall_mem_nil _) hits

theorem upholds_fetch (operation identity : String) (read : StrategyStore → Except StoreError α × StrategyStore)
    (absent : String) : Upholds cfg (fetch operation identity read absent) fun _ => True := by
  refine bind get fun s hs => ?_
  split
  · exact pure trivial
  · exact bind (put ⟨hs.config, hs.registry, hs.cache⟩) fun _ _ => pure trivial

theorem upholds_fetchPayload (tier : Tier) (identity : String) (version : Nat) :
    Upholds cfg (fetchPayload tier identity version) fun _ => True := by
  cases tier with
  | predefined => exact pure trivial
  | configured => exact bind (upholds_fetch _ _ _ _) fun _ _ => pure trivial
  | dynamic => exact bind (upholds_fetch _ _ _ _) fun _ _ => pure trivial

theorem upholds_createFromStore (tier : Tier) (identity : String) (version : Nat) :
    Upholds cfg (createFromStore tier identity version) (GivesIssued cfg) := by
  refine bind (upholds_fetchPayload tier identity version) fun fetched _ => ?_
  split
  · exact upholds_create _
  · exact pure (givesIssued_error _)

theorem upholds_invalidate (identity : String) (version : Nat) : Upholds cfg (invalidate identity version) fun _ => True := by
  have dropped : Upholds cfg (stepCache fun c => c.invalidate (identity, version)) fun _ => True :=
    upholds_stepCache fun _ hc => ⟨hc.invalidate _, trivial⟩
  refine bind dropped fun dropped _ => bind (upholds_changeShared _ _ _) fun _ _ => ?_
  split
  · exact pure trivial
  · exact bind (upholds_modifyCache fun _ hc => hc) fun _ _ => bind (upholds_emit _) fun _ _ => pure trivial

theorem upholds_shutdown : Upholds cfg shutdown fun _ => True := upholds_modifyCache fun _ _ => List.forall_mem_nil _

theorem upholds_begin (d : Descriptor) {first : Lookup Handle} (hit : HitsIssued cfg first) :
    Upholds cfg (begin d first) fun ready? => ∀ result ∈ ready?, GivesIssued cfg result := by
  unfold begin
  split
  · exact bind (upholds_answer d (List.forall_mem_nil _) hit) fun result issued => pure (by rintro _ ⟨⟩; exact issued)
  · cases first with
    | closed => exact bind (upholds_noteClosed d) fun _ _ => pure (by rintro _ ⟨⟩)
    | _ => exact pure (by rintro _ ⟨⟩)

theorem upholds_resume (d : Descriptor) {first : Lookup Handle} {second? : Option (Lookup Handle)} (hit : HitsIssued cfg first)
    (again : ∀ second ∈ second?, HitsIssued cfg second) : Upholds cfg (resume d first second?) (GivesIssued cfg) := by
  unfold resume
  extract_lets rest
  have alone {l : Lookup Handle} (hit : HitsIssued cfg l) : Upholds cfg (answer d [] l) (GivesIssued cfg) :=
    upholds_answer d (List.forall_mem_nil _) hit
  have rest (result : Except LoadError Handle) (issued : GivesIssued cfg result) :
      Upholds cfg (rest result) (GivesIssued cfg) := by
    simp only [rest]
    split
    next second t => exact upholds_answer d (List.forall_mem_singleton.2 issued) (again second rfl)
    next second _ => exact alone (again second rfl)
    · exact pure issued
  split
  · exact bind (upholds_loadFrom d none) rest
  · exact bind (alone hit) rest

/-- A request whose wait is disturbed is answered with what was issued. -/
theorem upholds_race (d : Descriptor) (disturbance : Disturbance) :
    Upholds cfg (race d disturbance) fun r => GivesIssued cfg r.result := by
  refine bind (upholds_lookup d) fun first hit => bind (upholds_begin d hit) fun ready? ready => ?_
  -- what follows the disturbance
  extract_lets finish
  have finish (removed? : Option ℕ) (second? : Option (Lookup Handle)) (again : ∀ second ∈ second?, HitsIssued cfg second) :
      Upholds cfg (finish (removed?, second?)) fun r => GivesIssued cfg r.result := by
    refine bind get fun s _ => ?_
    cases ready? with
    | some result => exact pure (ready result rfl)
    | none => exact bind (upholds_resume d hit again) fun _ issued => pure issued
  cases disturbance with
  | invalidate => exact bind (upholds_invalidate _ _) fun _ _ => finish _ _ (by rintro _ ⟨⟩)
  | shutdown => exact bind upholds_shutdown fun _ _ => finish _ _ (by rintro _ ⟨⟩)
  | drop =>
    dsimp only
    split
    · exact finish _ _ (by rintro _ ⟨⟩)
    · have second : Upholds cfg (some <$> lookup d) fun second? => ∀ second ∈ second?, HitsIssued cfg second :=
        bind (upholds_lookup d) fun second hit => pure (by rintro _ ⟨⟩; exact hit)
      exact bind second fun _ again => finish _ _ again

end Act

end StrategyHost
