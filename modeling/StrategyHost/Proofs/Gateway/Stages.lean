import StrategyHost.Proofs.Cache.History
import StrategyHost.Proofs.Gateway.Restore

/-!
# Loads and invalidations in stages

A load and an invalidation reach the cache and the shared tier in several steps, and what other requests do comes in between.
`LoadStage.next` and `CallStage.next` make one such step each and tell what was done (`Deed`). The steps of a load one after the
other are `Act.runLoad` (`LoadStage.run_nextAll`), those of an invalidation are `Act.invalidate` (`CallStage.run_nextAll`), and each
step changes the cache and the tier as its deed says and no further (`LoadStage.after_next`, `CallStage.after_next`).
-/

namespace StrategyHost
variable {α β : Type}

/-! ### Deeds -/

/-- What was done to the cache or the shared tier. Each invalidation has a number. -/
inductive Deed where
  | step (h : Cache.Happening Handle)
  | dropped (call : Nat) (pair : Pair)
  | deleted (call : Nat) (pair : Pair)
  | returned (call : Nat) (pair : Pair)
  | put (t : Ticket) (pair : Pair) (payload : ByteArray)

namespace Deed

def happening? : Deed → Option (Cache.Happening Handle)
  | step h => some h
  | dropped _ pair => some (.invalidated pair)
  | _ => none

def cacheAfter (deed? : Option Deed) (c : Cache Handle) : Cache Handle :=
  match deed?.bind happening? with
  | some h => h.move c
  | none => c

/-- The shared tier after what was done, if anything was. One that cannot be reached stays as it is. -/
def tierAfter (deed? : Option Deed) (tier : SharedTier) : SharedTier :=
  match deed? with
  | some (put _ pair payload) => (tier.put pair.1 pair.2 payload).toOption.getD tier
  | some (deleted _ pair) => (tier.delete pair.1 pair.2).toOption.getD tier
  | _ => tier

end Deed

/-- The other scene is that after what was done, if anything was: the cache, up to its counters, and the shared tier are as it says. -/
structure Scene.After (s : Scene) (deed? : Option Deed) (s' : Scene) : Prop where
  cache : ∃ sharedHits invalidations, s'.gateway.cache = { Deed.cacheAfter deed? s.gateway.cache with sharedHits, invalidations }
  tier : s'.world.tier? = s.world.tier?.map (Deed.tierAfter deed?)

namespace Scene.After
variable {s s' s'' : Scene}

theorem none_of_eq (cache : s'.gateway.cache = s.gateway.cache) (tier : s'.world.tier? = s.world.tier?) : s.After none s' :=
  ⟨⟨s.gateway.cache.sharedHits, s.gateway.cache.invalidations, cache⟩, tier.trans (congrFun Option.map_id _).symm⟩

theorem none_trans (first : s.After none s') (second : s'.After none s'') : s.After none s'' := by
  obtain ⟨_, _, cache⟩ := first.cache
  obtain ⟨sharedHits, invalidations, cache'⟩ := second.cache
  refine ⟨⟨sharedHits, invalidations, ?_⟩, second.tier.trans ?_⟩
  · rw [cache', Deed.cacheAfter, cache]
    rfl
  · rw [first.tier]
    exact congrFun Option.map_id _

theorem step (s : Scene) (h : Cache.Happening Handle) : s.After (some (.step h)) (s.withCache (h.move s.gateway.cache)) :=
  ⟨⟨_, _, rfl⟩, (congrFun Option.map_id _).symm⟩

end Scene.After

/-! ### Acts that only prepare -/

namespace Act

/-- An act leaves the cache, up to its counters, and the shared tier as they are, and its result has the property `q`. -/
def Spares (x : Act α) (q : α → Prop) : Prop := ∀ s : Scene, s.After none (x.run s).2 ∧ q (x.run s).1

namespace Spares
variable {x : Act α} {f : α → Act β} {p : α → Prop} {q : β → Prop} {a : α}

theorem pure (h : p a) : Spares (Pure.pure a) p := fun _ => ⟨.none_of_eq rfl rfl, h⟩

theorem bind (hx : Spares x p) (hf : ∀ a, p a → Spares (f a) q) : Spares (x >>= f) q := by
  intro s
  obtain ⟨first, result⟩ := hx s
  obtain ⟨second, result'⟩ := hf _ result (x.run s).2
  exact ⟨first.none_trans second, result'⟩

theorem get_bind {f : Scene → Act β} (hf : ∀ s, Spares (f s) q) : Spares (get >>= f) q := fun s => hf s s

theorem forM {f : α → Act PUnit} (h : ∀ a, Spares (f a) fun _ => True) (as : List α) : Spares (as.forM f) fun _ => True := by
  induction as with
  | nil => exact pure trivial
  | cons a as ih => exact bind (h a) fun _ _ => ih

end Spares

variable {d : Descriptor}

theorem spares_emit (e : Audit.Event) : Spares (emit e) fun _ => True := fun _ => ⟨.none_of_eq rfl rfl, trivial⟩

theorem spares_count {f : Cache Handle → Cache Handle}
    (counts : ∀ c, ∃ sharedHits invalidations, f c = { c with sharedHits, invalidations }) :
    Spares (modifyCache f) fun _ => True :=
  fun s => ⟨⟨counts s.gateway.cache, (congrFun Option.map_id _).symm⟩, trivial⟩

theorem spares_readShared (key : CacheKey) : Spares (readShared key) fun _ => True := by
  refine .get_bind fun s => ?_
  split
  · exact .pure trivial
  split
  · exact .bind (spares_emit _) fun _ _ => .pure trivial
  · exact .pure trivial
  split
  · exact .bind (spares_emit _) fun _ _ => .pure trivial
  split
  · exact .bind (spares_count fun c => ⟨_, c.invalidations, rfl⟩) fun _ _ => .pure trivial
  · exact .pure trivial

theorem spares_runLoading (d : Descriptor) (load : Loading Loaded) : Spares (runLoading d load) fun _ => True :=
  fun _ => ⟨.none_of_eq rfl rfl, trivial⟩

theorem spares_tryOut (d : Descriptor) (h : Handle) : Spares (tryOut d h) fun _ => True := by
  refine .bind (.forM spares_emit _) fun _ _ => ?_
  split
  · exact .bind (spares_emit _) fun _ _ => .pure trivial
  · exact .pure trivial

theorem spares_handOut (d : Descriptor) (l : Loaded) : Spares (handOut d l) fun r => ∀ h, r = .ok h → h.key = d.cacheKey := by
  have numbered : Spares (handleOf d l) fun h => h.key = d.cacheKey := fun _ => ⟨.none_of_eq rfl rfl, rfl⟩
  have asked : Spares config fun _ => True := fun _ => ⟨.none_of_eq rfl rfl, trivial⟩
  refine .bind numbered fun h key => .bind asked fun settings _ => ?_
  have handed : ∀ h', Except.ok (ε := LoadError) h = .ok h' → h'.key = d.cacheKey := by
    rintro h' ⟨⟩
    exact key
  split
  · refine .bind (spares_tryOut d h) fun tried _ => ?_
    cases tried with
    | error e => exact .pure fun _ failed => nomatch failed
    | ok _ => exact .pure handed
  · exact .pure handed

theorem spares_loadAnew (d : Descriptor) : Spares (loadAnew d) fun r => ∀ h, r = .ok h → h.key = d.cacheKey := by
  refine .get_bind fun s => .bind (spares_runLoading d _) fun result _ => ?_
  cases result with
  | ok l => exact spares_handOut d l
  | error e => exact .pure fun _ failed => nomatch failed

theorem spares_loadFrom (d : Descriptor) (offered? : Option Snapshot) :
    Spares (loadFrom d offered?) fun r => ∀ h, r = .ok h → h.key = d.cacheKey := by
  unfold loadFrom
  cases (if d.tier.isShareable then offered? else none) with
  | none => exact spares_loadAnew d
  | some snapshot =>
    refine .get_bind fun s => .bind (spares_runLoading d _) fun result _ => ?_
    cases result with
    | ok l => exact spares_handOut d l
    | error e => exact spares_loadAnew d

theorem run_changeShared (key : CacheKey) (operation : String) (f : SharedTier → Except StoreError SharedTier) (s : Scene) :
    ((changeShared key operation f).run s).2.gateway.cache = s.gateway.cache ∧
      ((changeShared key operation f).run s).2.world.tier? = s.world.tier?.map fun tier => (f tier).toOption.getD tier := by
  simp only [changeShared, run_bind, run_get]
  cases held : s.world.tier? with
  | none => exact ⟨rfl, held⟩
  | some tier =>
    dsimp only [Option.map_some]
    cases f tier with
    | ok tier' => exact ⟨rfl, rfl⟩
    | error e => exact ⟨rfl, held⟩

end Act

/-! ### Loads -/

/-- How far a load has come: it has begun, looked into the shared tier, run the loader, left an entry and has its snapshot still to put,
finished, and let go of its slot. -/
inductive LoadStage where
  | begun
  | looked (offered? : Option Snapshot)
  | loaded (restored : Bool) (result : Except LoadError Handle)
  | kept (h : Handle)
  | finished
  | released

namespace LoadStage
open Act

/-- A load that is over has nothing left to do for the cache and the tier but to let go of its slot. -/
def IsOver : LoadStage → Prop
  | finished | released => True
  | _ => False

def look (d : Descriptor) (t : Ticket) : Act (Option Snapshot) :=
  if d.tier.isShareable then readShared t.key else pure none

def next (d : Descriptor) (t : Ticket) : LoadStage → Act (Option Deed × LoadStage)
  | begun => do return (none, looked (← look d t))
  | looked offered? => do
    let result ← loadFrom d offered?
    return (none, loaded offered?.isSome result)
  | loaded restored (.ok h) => do
    let stays ← stepCache fun c => c.finish t (.loaded h)
    return (some (.step (.ended t (.loaded h))), if stays && h.tier.isShareable && !restored then kept h else finished)
  | loaded _ (.error _) => do
    let _ ← stepCache fun c => c.finish t .failed
    return (some (.step (.ended t .failed)), finished)
  | kept h => do
    writeShared h
    return ((snapshotOf? h).map fun snapshot => .put t h.key.pair snapshot.encode, finished)
  | finished => do
    modifyCache fun c => c.release t
    return (some (.step (.released t)), released)
  | released => return (none, released)

def nextAll (d : Descriptor) (t : Ticket) : Nat → LoadStage → Act LoadStage
  | 0, stage => return stage
  | n + 1, stage => do nextAll d t n (← stage.next d t).2

section
variable (d : Descriptor) (t : Ticket) (s : Scene) (h : Handle)

theorem run_next_begun : (begun.next d t).run s = ((none, looked ((look d t).run s).1), ((look d t).run s).2) := rfl

theorem run_next_looked (offered? : Option Snapshot) : ((looked offered?).next d t).run s =
    ((none, loaded offered?.isSome ((loadFrom d offered?).run s).1), ((loadFrom d offered?).run s).2) := rfl

theorem run_next_ok (restored : Bool) : ((loaded restored (.ok h)).next d t).run s =
    let stays := (s.gateway.cache.finish t (.loaded h)).1
    ((some (.step (.ended t (.loaded h))), if stays && h.tier.isShareable && !restored then kept h else finished),
      s.withCache (s.gateway.cache.finish t (.loaded h)).2) := rfl

theorem run_next_kept : ((kept h).next d t).run s =
    (((snapshotOf? h).map fun snapshot => .put t h.key.pair snapshot.encode, finished), ((writeShared h).run s).2) := rfl

theorem run_nextAll_succ (n : Nat) (stage : LoadStage) : (stage.nextAll d t (n + 1)).run s =
    (((stage.next d t).run s).1.2.nextAll d t n).run ((stage.next d t).run s).2 := rfl

theorem run_nextAll_ok (restored : Bool) : ((loaded restored (.ok h)).nextAll d t 3).run s =
    (released, ((keep t restored h).run s).2.withCache (((keep t restored h).run s).2.gateway.cache.release t)) := by
  have finished : (stepCache fun c => c.finish t (.loaded h)).run s =
      ((s.gateway.cache.finish t (.loaded h)).1, s.withCache (s.gateway.cache.finish t (.loaded h)).2) := rfl
  rw [run_nextAll_succ, run_next_ok]
  simp only [keep, run_bind, finished]
  split <;> rfl

theorem runLoad_eq : runLoad d t = (do
    let offered? ← look d t
    let result ← loadFrom d offered?
    match result with
    | .ok h => keep t offered?.isSome h
    | .error _ => let _ ← stepCache fun c => c.finish t .failed
    modifyCache fun c => c.release t
    return result) := by
  unfold runLoad look
  split <;> rfl

/-- The five steps of a load, one after the other, are the load as a whole. -/
theorem run_nextAll : (begun.nextAll d t 5).run s = (released, ((runLoad d t).run s).2) := by
  rw [run_nextAll_succ, run_next_begun, run_nextAll_succ, run_next_looked, runLoad_eq]
  simp only [run_bind]
  generalize (loadFrom d _).run _ = ran
  obtain ⟨e | h, s'⟩ := ran
  · rfl
  · exact run_nextAll_ok d t s' h _

end

theorem spares_look (d : Descriptor) (t : Ticket) : Spares (look d t) fun _ => True := by
  unfold look
  split
  · exact spares_readShared t.key
  · exact .pure trivial

/-- A step of a load does what it tells. -/
theorem after_next (d : Descriptor) (t : Ticket) (stage : LoadStage) (s : Scene) :
    s.After ((stage.next d t).run s).1.1 ((stage.next d t).run s).2 := by
  cases stage with
  | begun => exact (spares_look d t s).1
  | looked offered? => exact (spares_loadFrom d offered? s).1
  | loaded restored result =>
    cases result with
    | ok h => exact .step s _
    | error e => exact .step s _
  | kept h =>
    rw [run_next_kept, writeShared]
    cases snapshotOf? h with
    | none => exact .none_of_eq rfl rfl
    | some snapshot =>
      obtain ⟨cache, tier⟩ := run_changeShared h.key "shared_write"
        (fun tier => tier.put h.key.identity h.key.version snapshot.encode) s
      exact ⟨⟨_, _, cache⟩, tier⟩
  | finished => exact .step s _
  | released => exact .none_of_eq rfl rfl

end LoadStage

/-! ### Invalidations -/

inductive CallStage where
  | due
  | dropped (d : Cache.Dropped)
  | deleted (d : Cache.Dropped)
  | returned

namespace CallStage
open Act

/-- An invalidation that has dropped something is counted and leaves an event. -/
def report (pair : Pair) (d : Cache.Dropped) : Act Unit :=
  if d.removed + d.abandoned = 0 then pure ()
  else do
    modifyCache Cache.countInvalidation
    emit (.make .invalidated pair.1 pair.2 Audit.systemActor
      [("removed", .ofNat d.removed), ("abandoned_loads", .ofNat d.abandoned)])

def next (call : Nat) (pair : Pair) : CallStage → Act (Option Deed × CallStage)
  | due => do
    let d ← stepCache fun c => c.invalidate pair
    return (some (.dropped call pair), dropped d)
  | dropped d => do
    changeShared ⟨pair.1, pair.2, ""⟩ "shared_delete" fun tier => tier.delete pair.1 pair.2
    return (some (.deleted call pair), deleted d)
  | deleted d => do
    report pair d
    return (some (.returned call pair), returned)
  | returned => return (none, returned)

def nextAll (call : Nat) (pair : Pair) : Nat → CallStage → Act CallStage
  | 0, stage => return stage
  | n + 1, stage => do nextAll call pair n (← stage.next call pair).2

section
variable (call : Nat) (pair : Pair) (s : Scene) (d : Cache.Dropped)

theorem run_next_due : (due.next call pair).run s =
    ((some (.dropped call pair), dropped (s.gateway.cache.invalidate pair).1),
      s.withCache (s.gateway.cache.invalidate pair).2) := rfl

theorem run_next_dropped : ((dropped d).next call pair).run s =
    ((some (.deleted call pair), deleted d),
      ((changeShared ⟨pair.1, pair.2, ""⟩ "shared_delete" fun tier => tier.delete pair.1 pair.2).run s).2) := rfl

theorem run_next_deleted : ((deleted d).next call pair).run s =
    ((some (.returned call pair), returned), ((report pair d).run s).2) := rfl

theorem run_nextAll_succ (n : Nat) (stage : CallStage) : (stage.nextAll call pair (n + 1)).run s =
    (((stage.next call pair).run s).1.2.nextAll call pair n).run ((stage.next call pair).run s).2 := rfl

/-- The three steps of an invalidation, one after the other, are the invalidation as a whole. -/
theorem run_nextAll : (due.nextAll call pair 3).run s = (returned, ((invalidate pair.1 pair.2).run s).2) := by
  have dropped : (stepCache fun c => c.invalidate (pair.1, pair.2)).run s =
      ((s.gateway.cache.invalidate pair).1, s.withCache (s.gateway.cache.invalidate pair).2) := rfl
  rw [run_nextAll_succ, run_next_due, run_nextAll_succ, run_next_dropped, run_nextAll_succ, run_next_deleted]
  simp only [invalidate, report, run_bind, dropped]
  split <;> rfl

end

/-- A step of an invalidation does what it tells. -/
theorem after_next (call : Nat) (pair : Pair) (stage : CallStage) (s : Scene) :
    s.After ((stage.next call pair).run s).1.1 ((stage.next call pair).run s).2 := by
  cases stage with
  | due => exact ⟨⟨_, _, rfl⟩, (congrFun Option.map_id _).symm⟩
  | dropped d =>
    obtain ⟨cache, tier⟩ := run_changeShared ⟨pair.1, pair.2, ""⟩ "shared_delete" (fun tier => tier.delete pair.1 pair.2) s
    exact ⟨⟨_, _, cache⟩, tier⟩
  | deleted d =>
    have reported : Spares (report pair d) fun _ => True := by
      unfold report
      split
      · exact .pure trivial
      · exact .bind (spares_count fun c => ⟨c.sharedHits, _, rfl⟩) fun _ _ => spares_emit _
    obtain ⟨cache, tier⟩ := (reported s).1
    exact ⟨cache, tier⟩
  | returned => exact .none_of_eq rfl rfl

end CallStage
end StrategyHost
