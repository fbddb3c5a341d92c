import Mathlib.Algebra.GroupWithZero.Nat
import Mathlib.Data.List.Infix
import Mathlib.Data.List.Nodup
import Mathlib.Data.List.Perm.Subperm
import Mathlib.Data.List.TakeWhile
import StrategyHost.Proofs.Cache.Steps

/-!
# What a cache keeps

A cache that serves one request after the other keeps the keys that were used last. `serve` makes a request with the atomic steps of
a cache, and the requests that were served, the last one first, say which keys were used when. `Cache.recent_serveAll`: a key is
kept just if its pair was not invalidated since its last use and there never were as many keys used after it as there is room for;
the entries are in the order of last use, and the counters count what has happened.

The proof goes through the `ranking` of the keys by last use, which no capacity cuts off: the kept keys are its last ones.
-/

namespace StrategyHost.Cache

/-- Something to ask of a cache: a value, with what a load would give, or an invalidation. -/
inductive Request (α : Type) where
  | get (key : CacheKey) (value : α)
  | invalidate (pair : Pair)
deriving DecidableEq, Repr

/-- What became of a request: a value was there, was loaded and inserted, or was passed on without an entry, or so many entries of a
pair were dropped. -/
inductive Served where
  | hit (key : CacheKey)
  | inserted (key : CacheKey)
  | passed (key : CacheKey)
  | dropped (pair : Pair) (removed : Nat)
deriving DecidableEq, Repr

variable {α : Type}

def Request.isGet : Request α → Bool
  | .get .. => true
  | .invalidate _ => false

namespace Served

def used? : Served → Option CacheKey
  | .hit key | .inserted key => some key
  | _ => none

/-- What a request leaves where it is in the ranking of the keys by last use. -/
def keeps : Served → CacheKey → Bool
  | .hit key, k | .inserted key, k => k ≠ key
  | .passed _, _ => true
  | .dropped pair _, k => k.pair ≠ pair

def isInserted : Served → Bool
  | .inserted _ => true
  | _ => false

def removed : Served → Nat
  | .dropped _ removed => removed
  | _ => 0

end Served

/-- Serves a request to its end. A load that is needed succeeds. -/
def serve (c : Cache α) : Request α → Served × Cache α
  | .get key value =>
    match c.lookup key with
    | (.hit _, c) => (.hit key, c)
    | (.began t, c) =>
      let (kept, c) := c.finish t (.loaded value)
      (if kept then .inserted key else .passed key, c.release t)
    | (_, c) => (.passed key, c)
  | .invalidate pair =>
    let (dropped, c) := c.invalidate pair
    (.dropped pair dropped.removed, if dropped.removed + dropped.abandoned = 0 then c else c.countInvalidation)

def serveAll (c : Cache α) (past : List Served) : List (Request α) → Cache α × List Served
  | [] => (c, past)
  | r :: requests => (c.serve r).2.serveAll ((c.serve r).1 :: past) requests

def sinceUse (key : CacheKey) (past : List Served) : List Served := past.takeWhile (·.used? ≠ some key)

/-- A key was used, and its pair was not invalidated since its last use. -/
def Alive (key : CacheKey) (past : List Served) : Prop :=
  (∃ s ∈ past, s.used? = some key) ∧ ∀ removed, .dropped key.pair removed ∉ sinceUse key past

/-- At no time since the last use of a key were there `n` other keys that had been used after it and were alive. -/
def Spared (n : Nat) (key : CacheKey) (past : List Served) : Prop :=
  ∀ later, later <:+ sinceUse key past →
    ∀ keys : List CacheKey, keys.Nodup → (∀ k ∈ keys, k ≠ key ∧ Alive k later) → keys.length < n

def age (key : CacheKey) (past : List Served) : Nat := (sinceUse key past).length

/-- What holds of a cache that has served the requests `past` and no others. -/
structure Recent (c : Cache α) (past : List Served) : Prop where
  mem_iff : ∀ key, (∃ e ∈ c.entries, e.key = key) ↔ Alive key past ∧ Spared c.capacity key past
  ordered : c.entries.Pairwise fun e e' => age e'.key past < age e.key past
  insertions : past.countP Served.isInserted = c.size + c.evictions + (past.map Served.removed).sum

/-! ### The keys by last use -/

def ranking : List Served → List CacheKey
  | [] => []
  | s :: past => (ranking past).filter s.keeps ++ s.used?.toList

variable {past later : List Served} {s : Served} {key k : CacheKey} {n : Nat} {keys keys' : List CacheKey} {c : Cache α}

theorem Served.keeps_iff : s.keeps k = true ↔ s.used? ≠ some k ∧ ∀ removed, s ≠ .dropped k.pair removed := by
  cases s with
  | hit key | inserted key => simp [keeps, used?, @eq_comm _ k]
  | passed key => simp [keeps, used?]
  | dropped pair removed => simp [keeps, used?, @eq_comm _ k.pair]

theorem sinceUse_used (used : s.used? = some key) : sinceUse key (s :: past) = [] := by
  simp [sinceUse, used]

theorem sinceUse_cons (other : s.used? ≠ some key) : sinceUse key (s :: past) = s :: sinceUse key past := by
  simp [sinceUse, other]

theorem nodup_ranking (past : List Served) : (ranking past).Nodup := by
  induction past with
  | nil => exact .nil
  | cons s past ih =>
    refine List.nodup_append.2 ⟨ih.filter _, Option.toList_nodup _, ?_⟩
    rintro k hk _ used rfl
    exact (Served.keeps_iff.1 (List.mem_filter.1 hk).2).1 (Option.mem_toList.1 used)

theorem alive_used (used : s.used? = some key) : Alive key (s :: past) := by
  simp [Alive, sinceUse_used used, used]

theorem alive_cons (other : s.used? ≠ some key) :
    Alive key (s :: past) ↔ Alive key past ∧ ∀ removed, s ≠ .dropped key.pair removed := by
  have earlier : (∃ u ∈ s :: past, u.used? = some key) ↔ ∃ u ∈ past, u.used? = some key := by simp [other]
  rw [Alive, sinceUse_cons other, earlier, Alive]
  simp only [List.mem_cons, not_or, forall_and]
  constructor
  · rintro ⟨used, here, before⟩
    exact ⟨⟨used, before⟩, fun removed => Ne.symm (here removed)⟩
  · rintro ⟨⟨used, before⟩, here⟩
    exact ⟨used, fun removed => Ne.symm (here removed), before⟩

theorem mem_ranking : key ∈ ranking past ↔ Alive key past := by
  induction past with
  | nil => simp [ranking, Alive]
  | cons s past ih =>
    rw [ranking, List.mem_append, List.mem_filter, ih, Served.keeps_iff, Option.mem_toList]
    by_cases used : s.used? = some key
    · simp [alive_used used, used]
    · simp [alive_cons used, used]

theorem ranking_sinceUse (h : key ∈ ranking past) : ∃ older, ranking past = older ++ key :: ranking (sinceUse key past) := by
  induction past with
  | nil => simp [ranking] at h
  | cons s past ih =>
    by_cases used : s.used? = some key
    · refine ⟨(ranking past).filter s.keeps, ?_⟩
      simp only [sinceUse_used used, ranking, used, Option.toList_some]
    · have kept : key ∈ ranking past ∧ s.keeps key = true := by
        simpa [ranking, used] using h
      obtain ⟨older, eq⟩ := ih kept.1
      refine ⟨older.filter s.keeps, ?_⟩
      rw [sinceUse_cons used, ranking, eq, ranking, List.filter_append, List.filter_cons_of_pos kept.2, List.append_assoc,
        List.cons_append]

theorem spared_iff : Spared n key past ↔ ∀ later, later <:+ sinceUse key past → (ranking later).length < n := by
  refine forall₂_congr fun later suffix => ⟨fun spared => ?_, fun few keys nodup alive => ?_⟩
  · refine spared _ (nodup_ranking later) fun k hk => ⟨?_, mem_ranking.1 hk⟩
    rintro rfl
    obtain ⟨⟨s, hs, used⟩, -⟩ := mem_ranking.1 hk
    have := List.mem_takeWhile_imp (suffix.subset hs)
    simp [used] at this
  · have sub : keys ⊆ ranking later := fun k hk => mem_ranking.2 (alive k hk).2
    exact (nodup.subperm sub).length_le.trans_lt few

theorem spared_used (used : s.used? = some key) (room : 0 < n) : Spared n key (s :: past) := by
  rw [spared_iff, sinceUse_used used]
  intro later suffix
  rwa [List.suffix_nil.1 suffix]

theorem spared_cons (other : s.used? ≠ some key) :
    Spared n key (s :: past) ↔ (ranking (s :: sinceUse key past)).length < n ∧ Spared n key past := by
  simp only [spared_iff, sinceUse_cons other, List.suffix_cons_iff, or_imp, forall_and, forall_eq]

/-! ### What is kept is what was used last -/

/-- The keys of the entries are the last ones of the ranking, and those that should be kept. -/
structure Ranked (n : Nat) (keys : List CacheKey) (past : List Served) : Prop where
  suffix : keys <:+ ranking past
  length_le : keys.length ≤ n
  mem_iff : ∀ key, key ∈ keys ↔ key ∈ ranking past ∧ Spared n key past

theorem mem_of_suffix (suffix : keys <:+ ranking past) (h : key ∈ ranking past) :
    key ∈ keys ↔ (ranking (sinceUse key past)).length < keys.length := by
  obtain ⟨older, eq⟩ := ranking_sinceUse h
  have nodup := nodup_ranking past
  rw [eq] at suffix nodup
  have absent : key ∉ ranking (sinceUse key past) := (List.nodup_cons.1 (List.nodup_append.1 nodup).2.1).1
  rcases List.suffix_or_suffix_of_suffix suffix (List.suffix_append older _) with short | long
  · rcases List.suffix_cons_iff.1 short with rfl | shorter
    · simp
    · exact iff_of_false (fun mem => absent (shorter.subset mem)) (not_lt.2 shorter.length_le)
  · exact iff_of_true (long.subset (List.mem_cons_self ..)) long.length_le

namespace Ranked

theorem nil (n : Nat) : Ranked n [] [] := ⟨List.nil_suffix, Nat.zero_le n, by simp [ranking]⟩

/-- A request that leaves the last keys of the ranking: it adds none but the one that it uses, and a key that it ranks is missing
only where there is no more room. -/
theorem step (r : Ranked n keys past) (suffix : keys' <:+ ranking (s :: past)) (length_le : keys'.length ≤ n)
    (old : ∀ k ∈ keys', s.used? = some k ∨ k ∈ keys) (used : ∀ k ∈ s.used?, k ∈ keys')
    (full : ∀ k ∈ keys, k ∈ ranking (s :: past) → k ∈ keys' ∨ keys'.length = n) : Ranked n keys' (s :: past) := by
  refine ⟨suffix, length_le, fun key => ?_⟩
  by_cases now : s.used? = some key
  · have ranked : key ∈ ranking (s :: past) := mem_ranking.2 (alive_used now)
    have mem : key ∈ keys' := used key now
    exact iff_of_true mem ⟨ranked, spared_used now ((List.length_pos_of_mem mem).trans_le length_le)⟩
  · rw [spared_cons now]
    have younger : sinceUse key (s :: past) = s :: sinceUse key past := sinceUse_cons now
    constructor
    · intro mem
      have ranked := suffix.subset mem
      have few := (mem_of_suffix suffix ranked).1 mem
      rw [younger] at few
      exact ⟨ranked, few.trans_le length_le, ((r.mem_iff key).1 ((old key mem).resolve_left now)).2⟩
    · rintro ⟨ranked, few, spared⟩
      have before : key ∈ ranking past := mem_ranking.2 ((alive_cons now).1 (mem_ranking.1 ranked)).1
      rcases full key ((r.mem_iff key).2 ⟨before, spared⟩) ranked with mem | room
      · exact mem
      · rw [mem_of_suffix suffix ranked, younger, room]
        exact few

end Ranked

theorem pairwise_ranking (past : List Served) : (ranking past).Pairwise fun k k' => age k' past < age k past := by
  induction past with
  | nil => exact .nil
  | cons s past ih =>
    have other : ∀ k ∈ (ranking past).filter s.keeps, age k (s :: past) = age k past + 1 := by
      intro k hk
      rw [age, sinceUse_cons (Served.keeps_iff.1 (List.mem_filter.1 hk).2).1, List.length_cons, age]
    rw [ranking]
    refine List.pairwise_append.2 ⟨?_, ?_, ?_⟩
    · refine List.Pairwise.imp_of_mem ?_ (ih.filter _)
      intro k k' hk hk' less
      rw [other k hk, other k' hk']
      exact Nat.succ_lt_succ less
    · cases s.used? <;> simp
    · intro k hk k' used
      rw [other k hk, age, sinceUse_used (Option.mem_toList.1 used)]
      exact Nat.succ_pos _

/-! ### Serving -/

/-- An open cache with no running loads. -/
structure Idle (c : Cache α) : Prop where
  opened : c.closed = false
  pending : c.pending = []
  generations : c.generations = []

theorem Idle.serve_hit {e : CacheEntry α} (idle : c.Idle) (found : c.entry? key = some e) (a : α) :
    c.serve (.get key a) = (.hit key, c.touch e) := by
  simp only [serve, lookup, idle.opened, found, Bool.false_eq_true, ↓reduceIte]

theorem Idle.serve_miss (idle : c.Idle) (absent : c.entry? key = none) (a : α) :
    c.serve (.get key a) = (.inserted key, { c.insert key a with misses := c.misses + 1, nextId := c.nextId + 1 }) := by
  obtain ⟨b, looked, eq⟩ : ∃ b, c.lookup key = (.began ⟨key, c.nextId, 0⟩, b) ∧ b =
      { c with
        misses := c.misses + 1
        nextId := c.nextId + 1
        pending := [⟨key, c.nextId⟩]
        generations := [⟨key.pair, 0, 1⟩] } := by
    refine ⟨_, ?_, rfl⟩
    simp [lookup, idle.opened, absent, idle.pending, begin, hold, generationOf, generation?, idle.generations]
  have current : b.closed = false ∧ b.generationOf key.pair = 0 := by
    simp [eq, idle.opened, generationOf, generation?]
  have still : entry? (b.settle ⟨key, c.nextId, 0⟩) key = none := by
    rw [eq]
    exact absent
  simp only [serve, looked, finish_loaded, current, and_self, ↓reduceIte]
  rw [insert_of_none still, insert_of_none absent, eq]
  simp [evict, settle, release, updateGeneration, capacity, idle.pending, idle.generations]

/-- A cache that has served the requests `past` and no others. -/
structure Follows (c : Cache α) (past : List Served) : Prop where
  idle : c.Idle
  ranked : Ranked c.capacity (c.entries.map (·.key)) past
  insertions : past.countP Served.isInserted = c.size + c.evictions + (past.map Served.removed).sum

namespace Follows

theorem new (config : CacheConfig) : Follows (Cache.new config : Cache α) [] := ⟨⟨rfl, rfl, rfl⟩, .nil _, rfl⟩

theorem mem_keys {c : Cache α} : key ∈ c.entries.map (·.key) ↔ c.entry? key ≠ none := by
  simp [ entry?]

theorem suffix_filter (suffix : keys <:+ ranking past) : keys.filter s.keeps ++ s.used?.toList <:+ ranking (s :: past) := by
  obtain ⟨older, eq⟩ := suffix
  refine ⟨older.filter s.keeps, ?_⟩
  rw [ranking, ← eq, List.filter_append, List.append_assoc]

theorem nodup_keys (f : Follows c past) : (c.entries.map (·.key)).Nodup := f.ranked.suffix.nodup (nodup_ranking past)

theorem length_le (f : Follows c past) : c.entries.length ≤ c.capacity := by
  have := f.ranked.length_le
  rwa [List.length_map] at this

theorem touch {e : CacheEntry α} (f : Follows c past) (found : c.entry? key = some e) : Follows (c.touch e) (.hit key :: past) := by
  obtain ⟨mem, rfl⟩ := mem_of_found found
  obtain ⟨before, after, eq, touched⟩ := entries_touch f.nodup_keys mem
  have same : ∀ k, k ∈ (c.touch e).entries.map (·.key) ↔ k ∈ c.entries.map (·.key) := by
    intro k
    rw [touched, eq]
    simp only [List.map_append, List.map_cons, List.map_nil, List.mem_append, List.mem_cons, List.not_mem_nil, or_false]
    tauto
  have length : (c.touch e).entries.length = c.entries.length := by
    simp only [touched, eq, List.length_append, List.length_cons, List.length_nil]
    omega
  have suffix : (c.touch e).entries.map (·.key) <:+ ranking (.hit e.key :: past) := by
    have := suffix_filter (s := .hit e.key) f.ranked.suffix
    rw [List.filter_map] at this
    simpa [Cache.touch, Function.comp_def, Served.keeps, Served.used?] using this
  refine ⟨⟨f.idle.opened, f.idle.pending, f.idle.generations⟩, f.ranked.step suffix ?_ ?_ ?_ ?_, ?_⟩
  · rw [List.length_map, length]
    exact f.length_le
  · exact fun k hk => .inr ((same k).1 hk)
  · rintro k ⟨⟩
    exact (same _).2 (List.mem_map_of_mem mem)
  · exact fun k hk _ => .inl ((same k).2 hk)
  · simp only [List.countP_cons, Served.isInserted, Bool.false_eq_true, ↓reduceIte, f.insertions, size, length, List.map_cons,
      List.sum_cons, Served.removed, Nat.zero_add, Nat.add_zero]
    rfl

theorem insert (f : Follows c past) (absent : c.entry? key = none) (a : α) : Follows (c.insert key a) (.inserted key :: past) := by
  obtain ⟨dropped, eq, found⟩ := entries_insert absent a
  have length := length_entries_insert absent a
  have keys : dropped.map (·.key) ++ (c.insert key a).entries.map (·.key) = c.entries.map (·.key) ++ [key] := by
    rw [← List.map_append, eq, List.map_append]
    rfl
  have suffix : (c.insert key a).entries.map (·.key) <:+ ranking (.inserted key :: past) := by
    have others : (c.entries.map (·.key)).filter (Served.inserted key).keeps = c.entries.map (·.key) := by
      refine List.filter_eq_self.2 fun k hk => decide_eq_true ?_
      rintro rfl
      exact mem_keys.1 hk absent
    have all := suffix_filter (s := .inserted key) f.ranked.suffix
    rw [others] at all
    exact .trans ⟨dropped.map (·.key), keys⟩ all
  have ranked : Ranked c.capacity ((c.insert key a).entries.map (·.key)) (.inserted key :: past) := by
    refine f.ranked.step suffix ?_ ?_ ?_ ?_
    · rw [List.length_map, length]
      exact Nat.min_le_right ..
    · intro k hk
      rcases List.mem_map.1 hk with ⟨e, he, rfl⟩
      rcases mem_entries_insert he with same | old
      · exact .inl (congrArg some same.symm)
      · exact .inr (List.mem_map_of_mem old)
    · rintro k ⟨⟩
      exact mem_keys.2 (by simp [found])
    · intro k hk _
      rw [List.length_map, length]
      by_cases room : c.entries.length + 1 ≤ c.capacity
      · -- nothing is dropped where there is room
        have none : dropped = [] := by
          have := congrArg List.length eq
          simp only [List.length_append, length, List.length_singleton] at this
          refine List.length_eq_zero_iff.1 ?_
          omega
        rw [none, List.map_nil, List.nil_append] at keys
        exact .inl (keys ▸ List.mem_append_left _ hk)
      · exact .inr (Nat.min_eq_right (by omega))
  refine ⟨⟨?_, ?_, ?_⟩, ?_, ?_⟩
  · simp [f.idle.opened]
  · simp [f.idle.pending]
  · simp [f.idle.generations]
  · rw [capacity_insert]
    exact ranked
  · have total := size_insert absent a
    simp only [List.countP_cons, Served.isInserted, ↓reduceIte, f.insertions, List.map_cons, List.sum_cons, Served.removed]
    omega

theorem invalidate (f : Follows c past) (pair : Pair) :
    Follows (c.invalidate pair).2 (.dropped pair (c.invalidate pair).1.removed :: past) := by
  have unused : (Served.dropped pair (c.invalidate pair).1.removed).used? = none := rfl
  have fewer : (c.invalidate pair).2.entries.length ≤ c.entries.length := List.length_filter_le ..
  have suffix : (c.invalidate pair).2.entries.map (·.key) <:+ ranking (.dropped pair (c.invalidate pair).1.removed :: past) := by
    have all := suffix_filter (s := .dropped pair (c.invalidate pair).1.removed) f.ranked.suffix
    rwa [unused, Option.toList_none, List.append_nil, List.filter_map] at all
  refine ⟨⟨f.idle.opened, ?_, ?_⟩, f.ranked.step suffix ?_ ?_ nofun ?_, ?_⟩
  · simp [Cache.invalidate, f.idle.pending]
  · simp [Cache.invalidate, updateGeneration, f.idle.generations]
  · rw [List.length_map]
    exact fewer.trans f.length_le
  · intro k hk
    obtain ⟨e, he, rfl⟩ := List.mem_map.1 hk
    exact .inr (List.mem_map_of_mem (List.mem_of_mem_filter he))
  · intro k hk ranked
    obtain ⟨e, he, rfl⟩ := List.mem_map.1 hk
    have other := ((alive_cons (by simp [unused])).1 (mem_ranking.1 ranked)).2 (c.invalidate pair).1.removed
    refine .inl (List.mem_map_of_mem (List.mem_filter.2 ⟨he, decide_eq_true ?_⟩))
    rintro rfl
    exact other rfl
  · have removed : (c.invalidate pair).1.removed = c.entries.length - (c.invalidate pair).2.entries.length := rfl
    have evictions : (c.invalidate pair).2.evictions = c.evictions := rfl
    simp only [List.countP_cons, Served.isInserted, Bool.false_eq_true, ↓reduceIte, f.insertions, List.map_cons, List.sum_cons,
      Served.removed, size, evictions]
    omega

theorem serve (f : Follows c past) (r : Request α) : Follows (c.serve r).2 ((c.serve r).1 :: past) := by
  cases r with
  | get key a =>
    cases found : c.entry? key with
    | some e =>
      rw [f.idle.serve_hit found]
      exact f.touch found
    | none =>
      have inserted := f.insert found a
      rw [f.idle.serve_miss found]
      exact ⟨⟨inserted.idle.opened, inserted.idle.pending, inserted.idle.generations⟩, inserted.ranked, inserted.insertions⟩
  | invalidate pair =>
    have dropped := f.invalidate pair
    rw [Cache.serve]
    dsimp only
    split
    · exact dropped
    · exact ⟨⟨dropped.idle.opened, dropped.idle.pending, dropped.idle.generations⟩, dropped.ranked, dropped.insertions⟩

theorem lookups_serve (f : Follows c past) (r : Request α) :
    (c.serve r).2.hits + (c.serve r).2.misses = c.hits + c.misses + if r.isGet then 1 else 0 := by
  cases r with
  | get key a =>
    cases found : c.entry? key with
    | some e =>
      rw [f.idle.serve_hit found]
      exact Nat.add_right_comm ..
    | none =>
      rw [f.idle.serve_miss found]
      simp [Request.isGet, Nat.add_assoc]
  | invalidate pair =>
    rw [Cache.serve]
    dsimp only
    split <;> rfl

theorem capacity_serve (f : Follows c past) (r : Request α) : (c.serve r).2.capacity = c.capacity := by
  cases r with
  | get key a =>
    cases found : c.entry? key with
    | some e =>
      rw [f.idle.serve_hit found]
      rfl
    | none =>
      rw [f.idle.serve_miss found]
      exact capacity_insert ..
  | invalidate pair =>
    rw [Cache.serve]
    dsimp only
    split <;> rfl

theorem serveAll (f : Follows c past) (requests : List (Request α)) :
    Follows (c.serveAll past requests).1 (c.serveAll past requests).2 := by
  induction requests generalizing c past with
  | nil => exact f
  | cons r requests ih => exact ih (f.serve r)

theorem capacity_serveAll (f : Follows c past) (requests : List (Request α)) :
    (c.serveAll past requests).1.capacity = c.capacity := by
  induction requests generalizing c past with
  | nil => rfl
  | cons r requests ih => exact (ih (f.serve r)).trans (f.capacity_serve r)

theorem lookups_serveAll (f : Follows c past) (requests : List (Request α)) :
    (c.serveAll past requests).1.hits + (c.serveAll past requests).1.misses =
      c.hits + c.misses + requests.countP Request.isGet := by
  induction requests generalizing c past with
  | nil => rfl
  | cons r requests ih =>
    rw [Cache.serveAll, ih (f.serve r), f.lookups_serve r, List.countP_cons]
    omega

theorem used_serve (f : Follows c past) (r : Request α) : (c.serve r).1.used?.isSome = r.isGet := by
  cases r with
  | get key a =>
    cases found : c.entry? key with
    | some e =>
      rw [f.idle.serve_hit found]
      rfl
    | none =>
      rw [f.idle.serve_miss found]
      rfl
  | invalidate pair => rfl

theorem used_serveAll (f : Follows c past) (requests : List (Request α)) :
    (c.serveAll past requests).2.countP (·.used?.isSome) = past.countP (·.used?.isSome) + requests.countP Request.isGet := by
  induction requests generalizing c past with
  | nil => rfl
  | cons r requests ih =>
    rw [Cache.serveAll, ih (f.serve r), List.countP_cons, List.countP_cons, f.used_serve r]
    omega

theorem recent (f : Follows c past) : Recent c past := by
  refine ⟨fun key => ?_, ?_, f.insertions⟩
  · rw [← mem_ranking, ← f.ranked.mem_iff, List.mem_map]
  · exact List.pairwise_map.1 ((pairwise_ranking past).sublist f.ranked.suffix.sublist)

end Follows

/-- A cache that serves one request after the other keeps what was used last, as far as there is room, in the order of last use.
Its counters tell how many requests asked for a value, and where the inserted values are. -/
theorem recent_serveAll (config : CacheConfig) (requests : List (Request α)) :
    let (c, past) := (Cache.new config).serveAll [] requests
    Recent c past ∧ c.capacity = max 1 config.maxEntries ∧ c.hits + c.misses = requests.countP Request.isGet ∧
      past.countP (·.used?.isSome) = requests.countP Request.isGet := by
  have new : Follows (Cache.new config : Cache α) [] := .new config
  refine ⟨(new.serveAll requests).recent, ?_, ?_, ?_⟩
  · rw [new.capacity_serveAll]
    exact Nat.max_comm ..
  · rw [new.lookups_serveAll]
    exact Nat.zero_add _
  · rw [new.used_serveAll]
    exact Nat.zero_add _

/-- Where there is room for two, the third goes out of the way of what was used before it. -/
example :
    let requests : List (Request Nat) := [.get ⟨"a", 1, ""⟩ 0, .get ⟨"b", 1, ""⟩ 1, .get ⟨"a", 1, ""⟩ 0, .get ⟨"c", 1, ""⟩ 2]
    (((Cache.new ⟨2⟩).serveAll [] requests).1.entries.map (·.key.identity)) = ["a", "c"] := by
  decide

end StrategyHost.Cache
