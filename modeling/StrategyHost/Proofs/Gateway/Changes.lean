import Mathlib.Logic.Relation
import StrategyHost.Gateway.Race
import StrategyHost.Proofs.Gateway.Shared

/-!
# What requests are made of

Without trial runs, all that a request does to a scene is made of four changes (`Scene.Change`): it runs a load on a tracker of its
own, which leaves the event of that load; it notes an event that is not about a load; and it changes the cache, or what the gateway
shares with others. `Act.Changes` says so of one act, and is shown here for every request and every part of one.
-/

namespace StrategyHost
variable {α β : Type}

def Audit.EventKind.isOutcome : Audit.EventKind → Bool
  | loadAttempt | validationRejected => true
  | _ => false

/-- A load of a descriptor: from what it holds itself, or from a snapshot. -/
inductive Loader.LoadOf (r : Registry) (d : Descriptor) : Loading Loaded → Prop
  | anew : LoadOf r d (Loader.load r d)
  | restored (snapshot : Snapshot) : LoadOf r d (Loader.restore r d snapshot)

inductive Scene.Change : Scene → Scene → Prop
  | load {s : Scene} {d : Descriptor} {load : Loading Loaded} (of : Loader.LoadOf s.gateway.registry d load) :
    Change s ((Act.runLoading d load).run s).2
  | note {s : Scene} {e : Audit.Event} (other : e.kind.isOutcome = false) : Change s { s with events := s.events ++ [e] }
  | cache {s : Scene} (cache : Cache Handle) : Change s { s with gateway := { s.gateway with cache } }
  | world {s : Scene} (world : Surroundings) : Change s { s with world }

theorem Scene.Change.config {s s' : Scene} (h : s.Change s') : s'.gateway.config = s.gateway.config := by
  cases h <;> rfl

theorem Scene.Change.registry {s s' : Scene} (h : s.Change s') : s'.gateway.registry = s.gateway.registry := by
  cases h <;> rfl

namespace Act
open Relation (ReflTransGen)

/-- Without trial runs, an act does nothing but changes. -/
def Changes (x : Act α) : Prop :=
  ∀ s : Scene, s.gateway.config.factory.eagerValidation = false → ReflTransGen Scene.Change s (x.run s).2

namespace Changes
variable {x : Act α} {f : α → Act β}

theorem pure (a : α) : Changes (Pure.pure a) := fun _ _ => .refl

theorem config_eq {s s' : Scene} (h : ReflTransGen Scene.Change s s') : s'.gateway.config = s.gateway.config := by
  induction h with
  | refl => rfl
  | tail _ change ih => exact change.config.trans ih

theorem registry_eq {s s' : Scene} (h : ReflTransGen Scene.Change s s') : s'.gateway.registry = s.gateway.registry := by
  induction h with
  | refl => rfl
  | tail _ change ih => exact change.registry.trans ih

theorem bind (hx : Changes x) (hf : ∀ a, Changes (f a)) : Changes (x >>= f) := by
  intro s lazy
  have first := hx s lazy
  exact first.trans (hf _ _ ((config_eq first).symm ▸ lazy))

theorem get_bind {f : Scene → Act β} (hf : ∀ s, Changes (f s)) : Changes (get >>= f) := fun s lazy => hf s s lazy

theorem mapM {γ : Type} {g : γ → Act α} (h : ∀ c, Changes (g c)) (cs : List γ) : Changes (cs.mapM g) := by
  induction cs with
  | nil => exact pure []
  | cons c cs ih =>
    rw [List.mapM_cons]
    exact bind (h c) fun _ => bind ih fun _ => pure _

end Changes

theorem changes_emit {e : Audit.Event} (other : e.kind.isOutcome = false) : Changes (emit e) :=
  fun _ _ => .single (.note other)

theorem changes_modifyCache (f : Cache Handle → Cache Handle) : Changes (modifyCache f) := fun _ _ => .single (.cache _)

theorem changes_stepCache (f : Cache Handle → α × Cache Handle) : Changes (stepCache f) := fun _ _ => .single (.cache _)

theorem changes_degrade (key : CacheKey) (operation error : String) : Changes (degrade key operation error) := changes_emit rfl

theorem changes_readShared (key : CacheKey) : Changes (readShared key) := by
  refine .get_bind fun s => ?_
  split
  · exact .pure none
  split
  · exact .bind (changes_degrade _ _ _) fun _ => .pure none
  · exact .pure none
  split
  · exact .bind (changes_degrade _ _ _) fun _ => .pure none
  split
  · exact .bind (changes_modifyCache _) fun _ => .pure _
  · exact .pure none

theorem changes_changeShared (key : CacheKey) (operation : String) (f : SharedTier → Except StoreError SharedTier) :
    Changes (changeShared key operation f) := by
  intro s lazy
  simp only [changeShared, run_bind, run_get]
  split
  · exact .refl
  split
  · exact .single (.world _)
  · exact changes_degrade key operation _ s lazy

theorem changes_writeShared (h : Handle) : Changes (writeShared h) := by
  unfold writeShared
  split
  · exact .pure ()
  · exact changes_changeShared _ _ _

/-! ### Loads -/

theorem changes_handOut (d : Descriptor) (l : Loaded) : Changes (handOut d l) := by
  intro s lazy
  have numbered : ReflTransGen Scene.Change s ((handleOf d l).run s).2 := .single (.world _)
  have asked : config.run ((handleOf d l).run s).2 = (s.gateway.config, ((handleOf d l).run s).2) := rfl
  simp only [handOut, run_bind, asked, lazy]
  exact numbered

theorem changes_loadAnew (d : Descriptor) : Changes (loadAnew d) := by
  intro s lazy
  have loaded : ReflTransGen Scene.Change s ((runLoading d (Loader.load s.gateway.registry d)).run s).2 := .single (.load .anew)
  simp only [loadAnew, run_bind, run_get]
  refine loaded.trans ?_
  split
  · exact changes_handOut d _ _ lazy
  · exact .refl

theorem changes_loadFrom (d : Descriptor) (snapshot? : Option Snapshot) : Changes (loadFrom d snapshot?) := by
  intro s lazy
  unfold loadFrom
  cases (if d.tier.isShareable then snapshot? else none) with
  | none => exact changes_loadAnew d s lazy
  | some snapshot =>
    have loaded : ReflTransGen Scene.Change s ((runLoading d (Loader.restore s.gateway.registry d snapshot)).run s).2 :=
      .single (.load (.restored snapshot))
    simp only [run_bind, run_get]
    refine loaded.trans ?_
    split
    · exact changes_handOut d _ _ lazy
    · exact changes_loadAnew d _ lazy

theorem changes_keep (t : Ticket) (restored : Bool) (h : Handle) : Changes (keep t restored h) := by
  refine .bind (changes_stepCache _) fun kept => ?_
  split
  · exact changes_writeShared h
  · exact .pure ()

theorem changes_runLoad (d : Descriptor) (t : Ticket) : Changes (runLoad d t) := by
  unfold runLoad
  -- what follows the look at the shared tier
  extract_lets rest
  have rest (snapshot? : Option Snapshot) : Changes (rest snapshot?) := by
    refine .bind (changes_loadFrom d snapshot?) fun result => ?_
    cases result with
    | ok h => exact .bind (changes_keep t _ h) fun _ => .bind (changes_modifyCache _) fun _ => .pure _
    | error e => exact .bind (changes_stepCache _) fun _ => .bind (changes_modifyCache _) fun _ => .pure _
  split
  · exact .bind (changes_readShared t.key) rest
  · exact rest none

/-! ### Requests -/

theorem changes_lookup (d : Descriptor) : Changes (lookup d) := changes_stepCache _

theorem changes_noteClosed (d : Descriptor) : Changes (noteClosed d) := changes_emit rfl

theorem changes_answer (d : Descriptor) (running : List (Nat × Except LoadError Handle)) (l : Lookup Handle) :
    Changes (answer d running l) := by
  cases l with
  | closed => exact .bind (changes_noteClosed d) fun _ => changes_loadFrom d none
  | hit h => exact .pure _
  | joined id => exact .pure _
  | began t => exact changes_runLoad d t

theorem changes_create (d : Descriptor) : Changes (create d) := .bind (changes_lookup d) (changes_answer d [])

theorem changes_answerAll (d : Descriptor) (running : List (Nat × Except LoadError Handle)) (ls : List (Lookup Handle)) :
    Changes (answerAll d running ls) := by
  induction ls generalizing running with
  | nil => exact .pure []
  | cons l ls ih => exact .bind (changes_answer d running l) fun _ => .bind (ih _) fun _ => .pure _

theorem changes_createMany (d : Descriptor) (n : Nat) : Changes (createMany d n) :=
  .bind (.mapM (fun _ => changes_lookup d) _) (changes_answerAll d [])

theorem changes_fetch (operation identity : String) (read : StrategyStore → Except StoreError α × StrategyStore)
    (absent : String) : Changes (fetch operation identity read absent) := by
  intro s _
  simp only [fetch, run_bind, run_get]
  split
  · exact .refl
  · exact .single (.world _)

theorem changes_fetchPayload (tier : Tier) (identity : String) (version : Nat) :
    Changes (fetchPayload tier identity version) := by
  cases tier with
  | predefined => exact .pure _
  | configured => exact .bind (changes_fetch _ _ _ _) fun _ => .pure _
  | dynamic => exact .bind (changes_fetch _ _ _ _) fun _ => .pure _

theorem changes_createFromStore (tier : Tier) (identity : String) (version : Nat) :
    Changes (createFromStore tier identity version) := by
  refine .bind (changes_fetchPayload tier identity version) fun fetched => ?_
  cases fetched with
  | ok payload => exact changes_create _
  | error e => exact .pure _

theorem changes_invalidate (identity : String) (version : Nat) : Changes (invalidate identity version) := by
  refine .bind (changes_stepCache _) fun dropped => .bind (changes_changeShared _ _ _) fun _ => ?_
  split
  · exact .pure 0
  · exact .bind (changes_modifyCache _) fun _ => .bind (changes_emit rfl) fun _ => .pure _

theorem changes_shutdown : Changes shutdown := changes_modifyCache _

theorem changes_begin (d : Descriptor) (first : Lookup Handle) : Changes (begin d first) := by
  unfold begin
  split
  · exact .bind (changes_answer d [] first) fun _ => .pure _
  · cases first with
    | closed => exact .bind (changes_noteClosed d) fun _ => .pure _
    | _ => exact .pure _

theorem changes_resume (d : Descriptor) (first : Lookup Handle) (second? : Option (Lookup Handle)) :
    Changes (resume d first second?) := by
  unfold resume
  extract_lets rest
  have rest (result : Except LoadError Handle) : Changes (rest result) := by
    simp only [rest]
    split
    · exact changes_answer d _ _
    · exact changes_answer d _ _
    · exact .pure _
  split
  · exact .bind (changes_loadFrom d none) rest
  · exact .bind (changes_answer d [] _) rest

theorem changes_race (d : Descriptor) (disturbance : Disturbance) : Changes (race d disturbance) := by
  refine .bind (changes_lookup d) fun first => .bind (changes_begin d first) fun ready? => ?_
  -- what follows the disturbance
  extract_lets finish
  have finish (parts : Option ℕ × Option (Lookup Handle)) : Changes (finish parts) := by
    refine .get_bind fun s => ?_
    cases ready? with
    | some result => exact .pure _
    | none => exact .bind (changes_resume d first _) fun _ => .pure _
  cases disturbance with
  | invalidate => exact .bind (changes_invalidate _ _) fun _ => .bind (.pure _) finish
  | shutdown => exact .bind changes_shutdown fun _ => .bind (.pure _) finish
  | drop =>
    dsimp only
    split
    · exact .bind (.pure none) fun _ => .bind (.pure _) finish
    · exact .bind (.bind (changes_lookup d) fun _ => .pure _) fun _ => .bind (.pure _) finish

end Act
end StrategyHost
