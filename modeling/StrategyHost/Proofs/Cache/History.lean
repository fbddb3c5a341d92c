import StrategyHost.Proofs.Cache.Steps

/-!
# The past of a cache

Many loads move one cache, each by its own atomic steps and in any order. `Cache.Ran c past` says that the steps `past`, the last
one first, have led a new cache to `c`. Which loads have not ended, which still hold the generation of their pair and what has
overtaken a load is read off `past` alone (`unfinished`, `holding`, `Overtaken`), so that the theorems about `c` have something to
be compared with. `Recorded` has what the past tells about the numbers of loads and about the end of the cache.
-/

namespace StrategyHost.Cache

/-- An atomic step of a cache, with what it came to. -/
inductive Happening (α : Type) where
  | looked (key : CacheKey) (l : Lookup α)
  | ended (t : Ticket) (load : LoadEnd α)
  | released (t : Ticket)
  | invalidated (pair : Pair)
  | closed
deriving DecidableEq, Repr

variable {α : Type}

def Happening.ticket? : Happening α → Option Ticket
  | .looked _ (.began t) => some t
  | _ => none

def Happening.of? : Happening α → Option Ticket
  | .looked _ (.began t) | .ended t _ | .released t => some t
  | _ => none

def begun (past : List (Happening α)) : List Ticket := past.filterMap Happening.ticket?

def unfinished : List (Happening α) → List Ticket
  | [] => []
  | .looked _ (.began t) :: past => t :: unfinished past
  | .ended t _ :: past => (unfinished past).erase t
  | _ :: past => unfinished past

def holding : List (Happening α) → List Ticket
  | [] => []
  | .looked _ (.began t) :: past => t :: holding past
  | .released t :: past => (holding past).erase t
  | _ :: past => holding past

def since (t : Ticket) (past : List (Happening α)) : List (Happening α) := past.takeWhile (·.ticket? ≠ some t)

/-- The pair of a load was invalidated, or the cache was shut down, after the load had begun. -/
def Overtaken (t : Ticket) (past : List (Happening α)) : Prop :=
  .invalidated t.key.pair ∈ since t past ∨ .closed ∈ since t past

/-- The steps `past` have led a new cache to this one. A load that has not ended may end in any way, and lets go of its slot
afterwards. -/
inductive Ran : Cache α → List (Happening α) → Prop
  | new (config : CacheConfig) : Ran (Cache.new config) []
  | lookup {c past} (key : CacheKey) : Ran c past → Ran (c.lookup key).2 (.looked key (c.lookup key).1 :: past)
  | finish {c past t} (load : LoadEnd α) : Ran c past → t ∈ unfinished past → Ran (c.finish t load).2 (.ended t load :: past)
  | release {c past t} : Ran c past → t ∈ holding past → t ∉ unfinished past → Ran (c.release t) (.released t :: past)
  | invalidate {c past} (pair : Pair) : Ran c past → Ran (c.invalidate pair).2 (.invalidated pair :: past)
  | shutdown {c past} : Ran c past → Ran c.shutdown (.closed :: past)
  | count {c past} (sharedHits invalidations : Nat) : Ran c past → Ran { c with sharedHits, invalidations } past

def Happening.move (c : Cache α) : Happening α → Cache α
  | .looked key _ => (c.lookup key).2
  | .ended t load => (c.finish t load).2
  | .released t => c.release t
  | .invalidated pair => (c.invalidate pair).2
  | .closed => c.shutdown

/-- A step that can be made: a lookup comes to what the cache has, only loads that have not ended end, and only those that have ended
let go of their slots. -/
def Happening.Allowed (c : Cache α) (past : List (Happening α)) : Happening α → Prop
  | .looked key l => l = (c.lookup key).1
  | .ended t _ => t ∈ unfinished past
  | .released t => t ∈ holding past ∧ t ∉ unfinished past
  | _ => True

variable {c c' : Cache α} {past : List (Happening α)} {h : Happening α} {t u : Ticket} {key : CacheKey} {pair : Pair}

theorem Ran.move (ran : Ran c past) (allowed : h.Allowed c past) : Ran (h.move c) (h :: past) := by
  cases h with
  | looked key l =>
    have found : l = (c.lookup key).1 := allowed
    exact found ▸ ran.lookup key
  | ended t load => exact ran.finish load allowed
  | released t => exact ran.release allowed.1 allowed.2
  | invalidated pair => exact ran.invalidate pair
  | closed => exact ran.shutdown

/-! ### Reading the past -/

theorem ticket?_ne (quiet : h.ticket? = none) : h.ticket? ≠ some t := quiet ▸ (Option.some_ne_none t).symm

theorem begun_cons (quiet : h.ticket? = none) : begun (h :: past) = begun past := List.filterMap_cons_none quiet

theorem begun_began : begun (.looked key (.began t) :: past) = t :: begun past := rfl

theorem begun_append (after : List (Happening α)) : begun (after ++ past) = begun after ++ begun past := List.filterMap_append

theorem unfinished_sublist (past : List (Happening α)) : (unfinished past).Sublist (begun past) := by
  fun_induction unfinished past with
  | case1 => exact .refl _
  | case2 _ _ _ ih => exact ih.cons_cons _
  | case3 _ _ _ ih => exact List.erase_sublist.trans ih
  | case4 h past _ _ ih => exact ih.trans ((List.sublist_cons_self h past).filterMap _)

theorem holding_sublist (past : List (Happening α)) : (holding past).Sublist (begun past) := by
  fun_induction holding past with
  | case1 => exact .refl _
  | case2 _ _ _ ih => exact ih.cons_cons _
  | case3 _ _ ih => exact List.erase_sublist.trans ih
  | case4 h past _ _ ih => exact ih.trans ((List.sublist_cons_self h past).filterMap _)

theorem mem_unfinished_cons (other : h.of? ≠ some t) : t ∈ unfinished (h :: past) ↔ t ∈ unfinished past := by
  have differs {u : Ticket} (of : h.of? = some u) : t ≠ u := fun same => other (same ▸ of)
  cases h with
  | looked key l =>
    cases l with
    | began u => exact List.mem_cons.trans (or_iff_right (differs rfl))
    | _ => exact .rfl
  | ended u load => exact List.mem_erase_of_ne (differs rfl)
  | _ => exact .rfl

theorem mem_holding_cons (other : h.of? ≠ some t) : t ∈ holding (h :: past) ↔ t ∈ holding past := by
  have differs {u : Ticket} (of : h.of? = some u) : t ≠ u := fun same => other (same ▸ of)
  cases h with
  | looked key l =>
    cases l with
    | began u => exact List.mem_cons.trans (or_iff_right (differs rfl))
    | _ => exact .rfl
  | released u => exact List.mem_erase_of_ne (differs rfl)
  | _ => exact .rfl

theorem since_began : since t (.looked key (.began t) :: past) = [] := by
  simp [since, Happening.ticket?]

theorem since_cons (other : h.ticket? ≠ some t) : since t (h :: past) = h :: since t past := by
  simp [since, other]

theorem Overtaken.cons (overtaken : Overtaken t past) (other : h.ticket? ≠ some t) : Overtaken t (h :: past) := by
  rw [Overtaken, since_cons other]
  exact overtaken.imp (List.mem_cons_of_mem _) (List.mem_cons_of_mem _)

theorem Overtaken.append (overtaken : Overtaken t past) (began : t ∈ begun past) {later : List (Happening α)}
    (distinct : (begun (later ++ past)).Nodup) : Overtaken t (later ++ past) := by
  induction later with
  | nil => exact overtaken
  | cons h later ih =>
    have again : t ∈ begun (later ++ past) := by
      rw [begun_append]
      exact List.mem_append_right _ began
    cases begins : h.ticket? with
    | none =>
      rw [List.cons_append, begun_cons begins] at distinct
      exact (ih distinct).cons (ticket?_ne begins)
    | some u =>
      have first : begun (h :: (later ++ past)) = u :: begun (later ++ past) := List.filterMap_cons_some begins
      rw [List.cons_append, first, List.nodup_cons] at distinct
      refine (ih distinct.2).cons ?_
      rintro same
      exact distinct.1 (Option.some.inj (begins.symm.trans same) ▸ again)

theorem overtaken_invalidated : Overtaken t (.invalidated pair :: past) ↔ t.key.pair = pair ∨ Overtaken t past := by
  rw [Overtaken, since_cons (ticket?_ne rfl), Overtaken]
  simp [or_assoc]

theorem overtaken_closed : Overtaken t (.closed :: past) := by
  rw [Overtaken, since_cons (ticket?_ne rfl)]
  exact .inr (List.mem_cons_self ..)

/-! ### Numbers, slots and the end -/

/-- What the past tells about the loads of a cache: they have different numbers, those that have not ended have their slots, and
none has begun after the cache was shut down. -/
structure Recorded (c : Cache α) (past : List (Happening α)) : Prop where
  id_lt : ∀ t ∈ begun past, t.id < c.nextId
  ids : ((begun past).map (·.id)).Nodup
  slot : ∀ t ∈ unfinished past, t ∈ holding past
  closed : c.closed = true ↔ .closed ∈ past
  closed_since : ∀ t ∈ begun past, .closed ∈ past → .closed ∈ since t past

namespace Recorded

theorem eq_of_id (r : Recorded c past) (ht : t ∈ begun past) (hu : u ∈ begun past) (same : t.id = u.id) : t = u :=
  List.inj_on_of_nodup_map r.ids ht hu same

theorem nodup_unfinished (r : Recorded c past) : (unfinished past).Nodup :=
  (List.Nodup.of_map _ r.ids).sublist (unfinished_sublist past)

theorem begins_began (r : Recorded c past) (ht : t ∈ begun past) :
    (Happening.looked key (.began (c.begin key).1) : Happening α).ticket? ≠ some t := by
  have older := r.id_lt t ht
  rintro ⟨⟩
  exact absurd older (Nat.lt_irrefl _)

theorem of_began (r : Recorded c past) (began : (c.lookup key).1 = .began t) :
    t.key = key ∧ t ∉ begun past := by
  rcases lookup_cases c key with ⟨-, eq⟩ | ⟨e, -, -, eq⟩ | ⟨p, -, -, -, -, eq⟩ | ⟨-, -, -, eq⟩ <;> rw [eq] at began
  · cases began
  · cases began
  · cases began
  · cases began
    exact ⟨rfl, fun again => r.begins_began again rfl⟩

theorem new (config : CacheConfig) : Recorded (Cache.new config : Cache α) [] :=
  ⟨nofun, .nil, nofun, by simp [Cache.new], nofun⟩

theorem step (r : Recorded c past) (nextId : c'.nextId = c.nextId) (closed : c'.closed = c.closed)
    (quiet : h.ticket? = none) (other : h ≠ .closed)
    (slot : ∀ t ∈ unfinished (h :: past), t ∈ holding (h :: past)) : Recorded c' (h :: past) := by
  have same : begun (h :: past) = begun past := begun_cons quiet
  refine ⟨?_, ?_, slot, ?_, ?_⟩
  · rw [same, nextId]
    exact r.id_lt
  · rw [same]
    exact r.ids
  · rw [closed, r.closed, List.mem_cons]
    exact (or_iff_right other.symm).symm
  · rw [same]
    intro t ht hc
    rw [since_cons (ticket?_ne quiet)]
    exact List.mem_cons_of_mem _ (r.closed_since t ht ((List.mem_cons.1 hc).resolve_left other.symm))

theorem begin (r : Recorded c past) (opened : c.closed = false) (key : CacheKey) :
    Recorded (c.begin key).2 (.looked key (.began (c.begin key).1) :: past) := by
  have still : Happening.closed ∉ past := fun hc => by simp [r.closed.2 hc] at opened
  have older : ∀ t ∈ begun past, t.id ≠ c.nextId := fun t ht => Nat.ne_of_lt (r.id_lt t ht)
  rw [begin_snd]
  refine ⟨?_, ?_, ?_, ?_, ?_⟩
  · rintro t (_ | ⟨_, ht⟩)
    · exact Nat.lt_succ_self c.nextId
    · exact Nat.lt_succ_of_lt (r.id_lt t ht)
  · refine List.nodup_cons.2 ⟨fun again => ?_, r.ids⟩
    obtain ⟨t, ht, same⟩ := List.mem_map.1 again
    exact older t ht same
  · rintro t (_ | ⟨_, ht⟩)
    · exact List.mem_cons_self ..
    · exact List.mem_cons_of_mem _ (r.slot t ht)
  · simp [opened, still]
  · intro t _ hc
    simp [still] at hc

theorem lookup (r : Recorded c past) (key : CacheKey) :
    Recorded (c.lookup key).2 (.looked key (c.lookup key).1 :: past) := by
  rcases lookup_cases c key with ⟨-, eq⟩ | ⟨e, -, -, eq⟩ | ⟨p, -, -, -, -, eq⟩ | ⟨opened, -, -, eq⟩ <;> rw [eq]
  · exact r.step rfl rfl rfl nofun r.slot
  · exact r.step rfl rfl rfl nofun r.slot
  · exact r.step rfl rfl rfl nofun r.slot
  · exact r.begin opened key

theorem finish (r : Recorded c past) (t : Ticket) (load : LoadEnd α) :
    Recorded (c.finish t load).2 (.ended t load :: past) :=
  r.step (afterFinish c t load).nextId (afterFinish c t load).closed rfl nofun
    fun u hu => r.slot u (List.mem_of_mem_erase hu)

theorem release (r : Recorded c past) (out : t ∉ unfinished past) : Recorded (c.release t) (.released t :: past) := by
  refine r.step rfl rfl rfl nofun fun u hu => ?_
  have other : u ≠ t := fun same => out (same ▸ hu)
  exact (List.mem_erase_of_ne other).2 (r.slot u hu)

theorem shutdown (r : Recorded c past) : Recorded c.shutdown (.closed :: past) := by
  refine ⟨r.id_lt, r.ids, r.slot, by simp [Cache.shutdown], fun t _ _ => ?_⟩
  rw [since_cons (ticket?_ne rfl)]
  exact List.mem_cons_self ..

end Recorded

theorem Ran.recorded (ran : Ran c past) : Recorded c past := by
  induction ran with
  | new config => exact .new config
  | lookup key _ ih => exact ih.lookup key
  | finish load _ _ ih => exact ih.finish _ load
  | release _ _ out ih => exact ih.release out
  | invalidate pair _ ih => exact ih.step rfl rfl rfl nofun ih.slot
  | shutdown _ ih => exact ih.shutdown
  | count _ _ _ ih => exact ⟨ih.id_lt, ih.ids, ih.slot, ih.closed, ih.closed_since⟩

end StrategyHost.Cache
