import StrategyHost.Proofs.Cache.Recency
import StrategyHost.Proofs.Gateway.Stages

/-!
# What a gateway keeps

A gateway that does one thing after the other moves its cache as `Cache.serve` does: by a request for a descriptor that comes to a
handle (`Act.serves_create`), and by an invalidation (`Act.serves_invalidate`). What is known of the caches that serve requests is
therefore known of the cache of a gateway, from what the gateway was asked: it keeps what was asked for last (`Scene.Asked.recent`).
-/

namespace StrategyHost

namespace Cache
variable {α : Type} {c c' c'' : Cache α} {past : List Served}

/-- The other cache has counted other numbers of shared hits and of invalidations, at most. -/
def Alike (c c' : Cache α) : Prop := ∃ sharedHits invalidations, c' = { c with sharedHits, invalidations }

namespace Alike

theorem refl (c : Cache α) : c.Alike c := ⟨_, _, rfl⟩

theorem trans (first : c.Alike c') (second : c'.Alike c'') : c.Alike c'' := by
  obtain ⟨_, _, rfl⟩ := first
  obtain ⟨sharedHits, invalidations, rfl⟩ := second
  exact ⟨sharedHits, invalidations, rfl⟩

theorem insert (alike : c.Alike c') (key : CacheKey) (a : α) : (c.insert key a).Alike (c'.insert key a) := by
  obtain ⟨sharedHits, invalidations, rfl⟩ := alike
  have same : entry? { c with sharedHits, invalidations } key = c.entry? key := rfl
  refine ⟨sharedHits, invalidations, ?_⟩
  simp only [Cache.insert, same]
  split <;> rfl

theorem finish (alike : c.Alike c') (t : Ticket) (a : α) : (c.finish t (.loaded a)).2.Alike (c'.finish t (.loaded a)).2 := by
  obtain ⟨sharedHits, invalidations, rfl⟩ := alike
  have settled : (c.settle t).Alike (Cache.settle { c with sharedHits, invalidations } t) := ⟨sharedHits, invalidations, rfl⟩
  have same : generationOf { c with sharedHits, invalidations } t.key.pair = c.generationOf t.key.pair := rfl
  simp only [finish_loaded, same]
  split
  · exact settled.insert t.key a
  · exact settled

theorem release (alike : c.Alike c') (t : Ticket) : (c.release t).Alike (c'.release t) := by
  obtain ⟨sharedHits, invalidations, rfl⟩ := alike
  exact ⟨sharedHits, invalidations, rfl⟩

theorem follows (alike : c.Alike c') (f : Follows c past) : Follows c' past := by
  obtain ⟨sharedHits, invalidations, rfl⟩ := alike
  exact ⟨⟨f.idle.opened, f.idle.pending, f.idle.generations⟩, f.ranked, f.insertions⟩

end Alike

/-- What a request for a key comes to in an open cache with no running loads. -/
def use (c : Cache α) (key : CacheKey) : Served := if c.contains key then .hit key else .inserted key

theorem Idle.serve_get (idle : c.Idle) (key : CacheKey) (a : α) : (c.serve (.get key a)).1 = c.use key := by
  cases found : c.entry? key with
  | some e => simp [idle.serve_hit found, use, contains, found]
  | none => simp [idle.serve_miss found, use, contains, found]

end Cache

namespace Act
variable {s : Scene} {d : Descriptor} {h : Handle}

theorem cache_keep (t : Ticket) (restored : Bool) (h : Handle) (s : Scene) :
    ((keep t restored h).run s).2.gateway.cache = (s.gateway.cache.finish t (.loaded h)).2 := by
  have finished : (stepCache fun c => c.finish t (.loaded h)).run s =
      ((s.gateway.cache.finish t (.loaded h)).1, s.withCache (s.gateway.cache.finish t (.loaded h)).2) := rfl
  simp only [keep, run_bind, finished]
  split
  · rw [writeShared]
    cases snapshotOf? h with
    | none => rfl
    | some snapshot => exact (run_changeShared ..).1
  · rfl

theorem alike_runLoad {t : Ticket} (loaded : ((runLoad d t).run s).1 = .ok h) :
    (Cache.release (s.gateway.cache.finish t (.loaded h)).2 t).Alike ((runLoad d t).run s).2.gateway.cache := by
  rw [LoadStage.runLoad_eq] at loaded ⊢
  simp only [run_bind] at loaded ⊢
  have looked : s.gateway.cache.Alike _ := (LoadStage.spares_look d t s).1.cache
  have tried := (spares_loadFrom d ((LoadStage.look d t).run s).1 ((LoadStage.look d t).run s).2).1.cache
  have before := looked.trans tried
  generalize (loadFrom d _).run _ = ran at loaded before ⊢
  obtain ⟨result, s'⟩ := ran
  cases result with
  | error e => cases loaded
  | ok h' =>
    cases loaded
    have after := (before.finish t h).release t
    rw [← cache_keep t _ h s'] at after
    exact after

/-- A request for a descriptor that comes to a handle moves the cache as a request for its key does. -/
theorem serves_create (idle : s.gateway.cache.Idle) (created : ((create d).run s).1 = .ok h) :
    (s.gateway.cache.serve (.get d.cacheKey h)).2.Alike ((create d).run s).2.gateway.cache := by
  rcases Cache.lookup_cases s.gateway.cache d.cacheKey with
    ⟨closed, -⟩ | ⟨e, -, -, looked⟩ | ⟨p, pending, -⟩ | ⟨-, -, -, looked⟩
  · rw [idle.opened] at closed
    cases closed
  · simp only [create, run_bind, run_lookup, Cache.serve, looked]
    exact .refl _
  · rw [idle.pending] at pending
    cases pending
  · simp only [create, run_bind, run_lookup, looked] at created
    simp only [create, run_bind, run_lookup, Cache.serve, looked]
    exact alike_runLoad created

/-- An invalidation moves the cache as one of its pair does, and tells how many entries it drops. -/
theorem serves_invalidate (s : Scene) (identity : String) (version : Nat) :
    s.gateway.cache.serve (.invalidate (identity, version)) =
      (.dropped (identity, version) ((invalidate identity version).run s).1,
        ((invalidate identity version).run s).2.gateway.cache) := by
  have dropped : (stepCache fun c => c.invalidate (identity, version)).run s =
      ((s.gateway.cache.invalidate (identity, version)).1, s.withCache (s.gateway.cache.invalidate (identity, version)).2) := rfl
  have deleted := (run_changeShared ⟨identity, version, ""⟩ "shared_delete" (fun tier => tier.delete identity version)
    (s.withCache (s.gateway.cache.invalidate (identity, version)).2)).1
  simp only [Cache.serve, invalidate, run_bind, dropped]
  generalize (changeShared _ _ _).run _ = ran at deleted ⊢
  obtain ⟨_, s'⟩ := ran
  change s'.gateway.cache = (s.gateway.cache.invalidate (identity, version)).2 at deleted
  split
  next nothing =>
    rw [← deleted, (Nat.add_eq_zero_iff.1 nothing).1]
    rfl
  next something =>
    rw [← deleted]
    rfl

end Act

/-! ### One thing after the other -/

namespace Scene

/-- A gateway that was asked for one thing after the other, with success, and what that came to for its cache, the last thing first.
Others may change what they share with it in between. -/
inductive Asked (cfg : Config) (registry : Registry) : Scene → List Cache.Served → Prop
  | start (world : Surroundings) : Asked cfg registry ⟨{ Gateway.new cfg with registry }, world, []⟩ []
  | elsewhere {s past} (world : Surroundings) (asked : Asked cfg registry s past) : Asked cfg registry { s with world } past
  | create {s past} {d : Descriptor} {h : Handle} (created : ((Act.create d).run s).1 = .ok h) (asked : Asked cfg registry s past) :
    Asked cfg registry ((Act.create d).run s).2 (s.gateway.cache.use d.cacheKey :: past)
  | invalidate {s past} (identity : String) (version : Nat) (asked : Asked cfg registry s past) :
    Asked cfg registry ((Act.invalidate identity version).run s).2
      (.dropped (identity, version) ((Act.invalidate identity version).run s).1 :: past)

variable {cfg : Config} {registry : Registry} {s : Scene} {past : List Cache.Served}

structure Follows (cfg : Config) (s : Scene) (past : List Cache.Served) : Prop where
  cache : s.gateway.cache.Follows past
  capacity : s.gateway.cache.capacity = max 1 cfg.cache.maxEntries
  lookups : s.gateway.cache.hits + s.gateway.cache.misses = past.countP (·.used?.isSome)

theorem Follows.serve (f : Follows cfg s past) {r : Cache.Request Handle} {served : Cache.Served} {s' : Scene}
    (came : (s.gateway.cache.serve r).1 = served) (alike : (s.gateway.cache.serve r).2.Alike s'.gateway.cache) :
    Follows cfg s' (served :: past) := by
  subst came
  have lookups := f.cache.lookups_serve r
  rw [f.lookups, ← f.cache.used_serve r, ← List.countP_cons] at lookups
  refine ⟨alike.follows (f.cache.serve r), ?_, ?_⟩
  · obtain ⟨sharedHits, invalidations, eq⟩ := alike
    rw [eq]
    exact (f.cache.capacity_serve r).trans f.capacity
  · obtain ⟨sharedHits, invalidations, eq⟩ := alike
    rw [eq]
    exact lookups

theorem Asked.follows (asked : Asked cfg registry s past) : Follows cfg s past := by
  induction asked with
  | start world => exact ⟨.new cfg.cache, Nat.max_comm .., rfl⟩
  | elsewhere world _ ih => exact ⟨ih.cache, ih.capacity, ih.lookups⟩
  | @create s past d h created _ ih =>
    exact ih.serve (ih.cache.idle.serve_get d.cacheKey h) (Act.serves_create ih.cache.idle created)
  | @invalidate s past identity version _ ih =>
    have served := Act.serves_invalidate s identity version
    refine ih.serve (congrArg Prod.fst served) ?_
    rw [served]
    exact .refl _

/-- A gateway keeps what it was asked for last, as far as there is room, in that order. -/
theorem Asked.recent (asked : Asked cfg registry s past) : Cache.Recent s.gateway.cache past ∧
    s.gateway.cache.capacity = max 1 cfg.cache.maxEntries ∧
    s.gateway.cache.hits + s.gateway.cache.misses = past.countP (·.used?.isSome) :=
  ⟨asked.follows.cache.recent, asked.follows.capacity, asked.follows.lookups⟩

end Scene
end StrategyHost
