import Mathlib.Data.List.Count
import StrategyHost.Proofs.Cache.History

/-!
# Running loads and their generations

A load is overtaken when its pair is invalidated or the cache is shut down while it runs. `Ran.coalesces`: in every cache that steps
have led to, a load that ends keeps its value just if it has not been overtaken, two loads of one key run together only if the pair
was invalidated between their starts, and the generations count the loads that hold them.

The cache does not know the past. Two invariants tie it to it: `Held`, that the generation of a pair tells a load whether the pair
was invalidated since, and `Joined`, that a load that has not been overtaken is the one that lookups of its key join.
-/

namespace StrategyHost.Cache
variable {α : Type} {c c' : Cache α} {past after earlier : List (Happening α)} {h : Happening α} {t u : Ticket} {key : CacheKey}
  {pair : Pair} {g : Generation}

def slots (pair : Pair) (past : List (Happening α)) : Nat := (holding past).countP (·.key.pair = pair)

theorem slots_began : slots pair (.looked key (.began t) :: past) = slots pair past + if t.key.pair = pair then 1 else 0 := by
  simp [slots, holding, List.countP_cons]

theorem slots_released (held : t ∈ holding past) :
    slots pair (.released t :: past) = slots pair past - if t.key.pair = pair then 1 else 0 := by
  simp [slots, holding, List.countP_erase, held]

theorem slots_eq_zero : slots pair past = 0 ↔ ∀ t ∈ holding past, t.key.pair ≠ pair := by
  simp [slots, List.countP_eq_zero]

/-! ### Generations -/

/-- What the generations know: how many loads of their pair have slots, and how often the pair was invalidated since each of them
began. The generation of a load is the last one just if that was never. -/
structure Held (c : Cache α) (past : List (Happening α)) : Prop where
  distinct : (c.generations.map (·.pair)).Nodup
  running : ∀ g ∈ c.generations, g.running = slots g.pair past
  used : ∀ g ∈ c.generations, g.running ≠ 0
  current : ∀ t ∈ holding past, ∃ g ∈ c.generations, g.pair = t.key.pair ∧ t.generation ≤ g.value ∧
    (t.generation = g.value ↔ .invalidated t.key.pair ∉ since t past)

namespace Held

/-- A load finds its own generation just if its pair was not invalidated since it began. -/
theorem generationOf_eq_iff (held : Held c past) (ht : t ∈ holding past) :
    c.generationOf t.key.pair = t.generation ↔ .invalidated t.key.pair ∉ since t past := by
  obtain ⟨g, hg, same, -, current⟩ := held.current t ht
  rw [← same, generationOf_of_mem held.distinct hg, same, ← current, eq_comm]

theorem new (config : CacheConfig) : Held (Cache.new config : Cache α) [] := ⟨.nil, nofun, nofun, nofun⟩

theorem still (c' : Cache α) (held : Held c past)
    (values : ∀ g ∈ c.generations, ∃ g' ∈ c'.generations, g'.pair = g.pair ∧ g'.value = g.value)
    (ht : t ∈ holding past) (begins : h.ticket? ≠ some t) (other : h ≠ .invalidated t.key.pair) :
    ∃ g ∈ c'.generations, g.pair = t.key.pair ∧ t.generation ≤ g.value ∧
      (t.generation = g.value ↔ .invalidated t.key.pair ∉ since t (h :: past)) := by
  obtain ⟨g, hg, same, le, current⟩ := held.current t ht
  obtain ⟨g', hg', same', value⟩ := values g hg
  refine ⟨g', hg', same'.trans same, value ▸ le, ?_⟩
  rw [value, current, since_cons begins, List.mem_cons, or_iff_right other.symm]

theorem step (held : Held c past) (generations : c'.generations = c.generations) (slots : holding (h :: past) = holding past)
    (quiet : h.ticket? = none) (other : ∀ pair, h ≠ .invalidated pair) : Held c' (h :: past) := by
  refine ⟨generations ▸ held.distinct, ?_, generations ▸ held.used, fun t ht => ?_⟩
  · simp only [generations, Cache.slots, slots]
    exact held.running
  · rw [slots] at ht
    exact held.still _ (fun g hg => ⟨g, generations ▸ hg, rfl, rfl⟩) ht (ticket?_ne quiet) (other _)

theorem begin (held : Held c past) (r : Recorded c past) (key : CacheKey) :
    Held (c.begin key).2 (.looked key (.began (c.begin key).1) :: past) := by
  have number : (c.begin key).1 = ⟨key, c.nextId, c.generationOf key.pair⟩ := rfl
  have begins : ∀ t ∈ holding past, (Happening.looked key (.began (c.begin key).1) : Happening α).ticket? ≠ some t :=
    fun t ht => r.begins_began ((holding_sublist past).subset ht)
  rw [begin_snd]
  rcases hold_cases c key.pair with ⟨g₀, hg₀, same₀, value₀, eq⟩ | ⟨absent, value₀, eq⟩
  · have kept : ∀ g ∈ c.generations, ∃ g' ∈ (c.hold key.pair).generations, g'.pair = g.pair ∧ g'.value = g.value := by
      intro g hg
      refine ⟨_, eq ▸ mem_updateGeneration.2 ⟨g, hg, rfl⟩, ?_, ?_⟩ <;> split <;> rfl
    refine ⟨?_, ?_, ?_, ?_⟩
    · rw [eq, pairs_updateGeneration]
      · exact held.distinct
      · exact fun _ => rfl
    · intro g hg
      rw [eq] at hg
      obtain ⟨g', hg', rfl⟩ := mem_updateGeneration.1 hg
      rw [slots_began, number]
      by_cases same : g'.pair = key.pair
      · simp [same, held.running g' hg']
      · simp [same, Ne.symm same, held.running g' hg']
    · intro g hg
      rw [eq] at hg
      obtain ⟨g', hg', rfl⟩ := mem_updateGeneration.1 hg
      split
      · exact Nat.succ_ne_zero _
      · exact held.used g' hg'
    · rintro t (_ | ⟨_, ht⟩)
      · obtain ⟨g', hg', same', value'⟩ := kept g₀ hg₀
        refine ⟨g', hg', same'.trans same₀, ?_, ?_⟩ <;> simp [number, value', value₀, since_began]
      · exact held.still { c with generations := _ } kept ht (begins t ht) nofun
  · have none : slots key.pair past = 0 := by
      refine slots_eq_zero.2 fun t ht same => ?_
      obtain ⟨g, hg, same', -⟩ := held.current t ht
      exact absent g hg (same'.trans same)
    refine ⟨?_, ?_, ?_, ?_⟩
    · rw [eq, List.map_append]
      refine List.nodup_append.2 ⟨held.distinct, by simp, ?_⟩
      simpa using absent
    · intro g hg
      rw [slots_began, number]
      rcases List.mem_append.1 (eq ▸ hg) with hg | hg
      · simp [(absent g hg).symm, held.running g hg]
      · simp [List.mem_singleton.1 hg, none]
    · intro g hg
      rcases List.mem_append.1 (eq ▸ hg) with hg | hg
      · exact held.used g hg
      · simp [List.mem_singleton.1 hg]
    · rintro t (_ | ⟨_, ht⟩)
      · refine ⟨⟨key.pair, 0, 1⟩, by simp [eq], rfl, ?_, ?_⟩ <;> simp [number, value₀, since_began]
      · refine held.still { c with generations := _ } (fun g hg => ⟨g, ?_, rfl, rfl⟩) ht (begins t ht) nofun
        exact eq ▸ List.mem_append_left _ hg

theorem lookup (held : Held c past) (r : Recorded c past) (key : CacheKey) :
    Held (c.lookup key).2 (.looked key (c.lookup key).1 :: past) := by
  rcases lookup_cases c key with ⟨-, eq⟩ | ⟨e, -, -, eq⟩ | ⟨p, -, -, -, -, eq⟩ | ⟨-, -, -, eq⟩ <;> rw [eq]
  · exact held.step rfl rfl rfl nofun
  · exact held.step rfl rfl rfl nofun
  · exact held.step rfl rfl rfl nofun
  · exact held.begin r key

theorem release (held : Held c past) (ht : t ∈ holding past) : Held (c.release t) (.released t :: past) := by
  have running : ∀ g ∈ c.generations,
      (if g.pair = t.key.pair then g.running - 1 else g.running) = slots g.pair (.released t :: past) := by
    intro g hg
    rw [slots_released ht, ← held.running g hg]
    by_cases ours : g.pair = t.key.pair
    · simp [ours]
    · simp [ours, Ne.symm ours]
  refine ⟨?_, ?_, ?_, ?_⟩
  · refine List.Nodup.sublist (List.filter_sublist.map _) ?_
    rw [pairs_updateGeneration]
    · exact held.distinct
    · exact fun _ => rfl
  · intro _ left
    obtain ⟨⟨g, hg, rfl⟩, -⟩ := mem_release.1 left
    have count := running g hg
    split
    · rwa [if_pos ‹_›] at count
    · rwa [if_neg ‹_›] at count
  · intro _ left
    obtain ⟨⟨g, hg, rfl⟩, used⟩ := mem_release.1 left
    by_cases ours : g.pair = t.key.pair
    · exact used (by rw [if_pos ours]; exact ours)
    · rw [if_neg ours]
      exact held.used g hg
  · intro u hu
    obtain ⟨g, hg, same, le, current⟩ := held.current u (List.mem_of_mem_erase hu)
    have current : u.generation = g.value ↔ .invalidated u.key.pair ∉ since u (.released t :: past) := by
      rw [current, since_cons (ticket?_ne rfl), List.mem_cons, or_iff_right nofun]
    by_cases ours : g.pair = t.key.pair
    · -- a load of the pair still has its slot, so its generation stays
      have others : slots g.pair (.released t :: past) ≠ 0 := fun none => slots_eq_zero.1 none u hu same.symm
      rw [← running g hg, if_pos ours] at others
      exact ⟨_, mem_release.2 ⟨⟨g, hg, (if_pos ours).symm⟩, fun _ => others⟩, same, le, current⟩
    · exact ⟨g, mem_release.2 ⟨⟨g, hg, (if_neg ours).symm⟩, fun same => absurd same ours⟩, same, le, current⟩

theorem invalidate (held : Held c past) (pair : Pair) : Held (c.invalidate pair).2 (.invalidated pair :: past) := by
  have mem : ∀ g, g ∈ (c.invalidate pair).2.generations ↔ ∃ g' ∈ c.generations, g = if g'.pair = pair then
      { g' with value := g'.value + 1 } else g' := fun g => mem_updateGeneration
  refine ⟨?_, ?_, ?_, ?_⟩
  · refine Eq.mpr (congrArg List.Nodup (pairs_updateGeneration ?_)) held.distinct
    exact fun _ => rfl
  · intro _ raised
    obtain ⟨g, hg, rfl⟩ := (mem _).1 raised
    split <;> exact held.running g hg
  · intro _ raised
    obtain ⟨g, hg, rfl⟩ := (mem _).1 raised
    split <;> exact held.used g hg
  · intro t ht
    obtain ⟨g, hg, same, le, current⟩ := held.current t ht
    refine ⟨_, (mem _).2 ⟨g, hg, rfl⟩, ?_⟩
    rw [since_cons (ticket?_ne rfl), List.mem_cons, not_or, ← current, ← same]
    by_cases ours : g.pair = pair
    · -- the new value is greater than that of any load
      have newer : t.generation ≠ g.value + 1 := by omega
      simp only [ours, ↓reduceIte, newer, not_true, false_and]
      exact ⟨trivial, by omega, trivial⟩
    · simp [ours, le]

end Held

theorem Ran.held (ran : Ran c past) : Held c past := by
  induction ran with
  | new config => exact .new config
  | lookup key ran ih => exact ih.lookup ran.recorded key
  | finish load _ _ ih => exact ih.step (afterFinish ..).generations rfl rfl nofun
  | release _ held _ ih => exact ih.release held
  | invalidate pair _ ih => exact ih.invalidate pair
  | shutdown _ ih => exact ih.step rfl rfl rfl nofun
  | count _ _ _ ih => exact { ih with }

theorem Ran.current_iff (ran : Ran c past) (ht : t ∈ unfinished past) :
    c.closed = false ∧ c.generationOf t.key.pair = t.generation ↔ ¬Overtaken t past := by
  have began : t ∈ begun past := (unfinished_sublist past).subset ht
  have closed : c.closed = false ↔ .closed ∉ since t past := by
    rw [← Bool.not_eq_true, ran.recorded.closed]
    exact not_congr ⟨ran.recorded.closed_since t began, fun hc => (List.takeWhile_sublist _).subset hc⟩
  rw [closed, ran.held.generationOf_eq_iff (ran.recorded.slot t ht), Overtaken, not_or, and_comm]

theorem Ran.kept_iff (ran : Ran c past) (ht : t ∈ unfinished past) (a : α) :
    (c.finish t (.loaded a)).1 = true ↔ ¬Overtaken t past := by
  rw [finish_loaded, ← ran.current_iff ht]
  split <;> simp [*]

/-! ### Joining -/

/-- A load that has not been overtaken is there to be joined, nothing is kept under its key, and it is the only one of its key. -/
structure Joined (c : Cache α) (past : List (Happening α)) : Prop where
  pending : ∀ t ∈ unfinished past, ¬Overtaken t past → ⟨t.key, t.id⟩ ∈ c.pending
  absent : ∀ t ∈ unfinished past, ¬Overtaken t past → ∀ e ∈ c.entries, e.key ≠ t.key
  only : ∀ t ∈ unfinished past, ∀ u ∈ unfinished past, t.key = u.key → ¬Overtaken t past → ¬Overtaken u past → t = u

namespace Joined

theorem new (config : CacheConfig) : Joined (Cache.new config : Cache α) [] := ⟨nofun, nofun, nofun⟩

theorem step (j : Joined c past) (quiet : h.ticket? = none)
    (running : ∀ t ∈ unfinished (h :: past), t ∈ unfinished past)
    (pending : ∀ t ∈ unfinished (h :: past), ¬Overtaken t (h :: past) → ⟨t.key, t.id⟩ ∈ c.pending → ⟨t.key, t.id⟩ ∈ c'.pending)
    (entries : ∀ t ∈ unfinished (h :: past), ¬Overtaken t (h :: past) → ∀ e ∈ c'.entries, e.key = t.key →
      ∃ e' ∈ c.entries, e'.key = t.key) : Joined c' (h :: past) := by
  have before : ∀ t, ¬Overtaken t (h :: past) → ¬Overtaken t past := fun t now was => now (was.cons (ticket?_ne quiet))
  refine ⟨?_, ?_, ?_⟩
  · intro t ht now
    exact pending t ht now (j.pending t (running t ht) (before t now))
  · intro t ht now e he same
    obtain ⟨e', he', same'⟩ := entries t ht now e he same
    exact j.absent t (running t ht) (before t now) e' he' same'
  · intro t ht u hu same nowt nowu
    exact j.only t (running t ht) u (running u hu) same (before t nowt) (before u nowu)

theorem begin (j : Joined c past) (r : Recorded c past) (absent : c.entry? key = none) (alone : ∀ p ∈ c.pending, p.key ≠ key) :
    Joined (c.begin key).2 (.looked key (.began (c.begin key).1) :: past) := by
  have before : ∀ t ∈ unfinished past, ¬Overtaken t (.looked key (.began (c.begin key).1) :: past) → ¬Overtaken t past :=
    fun t ht now was => now (was.cons (r.begins_began ((unfinished_sublist past).subset ht)))
  have others : ∀ t ∈ unfinished past, ¬Overtaken t past → t.key ≠ key := fun t ht was => alone _ (j.pending t ht was)
  rw [begin_snd]
  refine ⟨?_, ?_, ?_⟩
  · rintro t (_ | ⟨_, ht⟩) now
    · exact List.mem_append_right _ (List.mem_singleton_self _)
    · exact List.mem_append_left _ (j.pending t ht (before t ht now))
  · rintro t (_ | ⟨_, ht⟩) now
    · exact entry?_eq_none.1 absent
    · exact j.absent t ht (before t ht now)
  · rintro t (_ | ⟨_, ht⟩) u (_ | ⟨_, hu⟩) same nowt nowu
    · rfl
    · exact absurd same.symm (others u hu (before u hu nowu))
    · exact absurd same (others t ht (before t ht nowt))
    · exact j.only t ht u hu same (before t ht nowt) (before u hu nowu)

theorem lookup (j : Joined c past) (r : Recorded c past) (key : CacheKey) :
    Joined (c.lookup key).2 (.looked key (c.lookup key).1 :: past) := by
  rcases lookup_cases c key with ⟨-, eq⟩ | ⟨e, -, hit, eq⟩ | ⟨p, -, -, -, -, eq⟩ | ⟨-, absent, alone, eq⟩ <;> rw [eq]
  · exact j.step rfl (fun _ => id) (fun _ _ _ => id) fun _ _ _ e he same => ⟨e, he, same⟩
  · refine j.step rfl (fun _ => id) (fun _ _ _ => id) fun t _ _ e' he' same => ?_
    rcases List.mem_append.1 he' with he' | he'
    · exact ⟨e', List.mem_of_mem_filter he', same⟩
    · rw [List.mem_singleton.1 he'] at same
      exact ⟨e, (mem_of_found hit).1, same⟩
  · exact j.step rfl (fun _ => id) (fun _ _ _ => id) fun _ _ _ e he same => ⟨e, he, same⟩
  · exact j.begin r absent alone

theorem finish (j : Joined c past) (ran : Ran c past) (ht : t ∈ unfinished past) (load : LoadEnd α) :
    Joined (c.finish t load).2 (.ended t load :: past) := by
  have after := afterFinish c t load
  have running : ∀ u ∈ unfinished (.ended t load :: past), u ∈ unfinished past ∧ u ≠ t :=
    fun u hu => (List.Nodup.mem_erase_iff ran.recorded.nodup_unfinished).1 hu |>.symm
  have began : ∀ u ∈ unfinished past, u ∈ begun past := fun u hu => (unfinished_sublist past).subset hu
  refine j.step rfl (fun u hu => (running u hu).1) ?_ ?_
  · intro u hu _ hp
    refine after.pending _ hp fun same => (running u hu).2 ?_
    exact ran.recorded.eq_of_id (began u (running u hu).1) (began t ht) (PendingLoad.mk.inj same).2
  · intro u hu now e he same
    rcases after.entries e he with old | ⟨ours, current⟩
    · exact ⟨e, old, same⟩
    · -- the load that leaves the entry is the only one of its key that has not been overtaken
      have before : ¬Overtaken u past := fun was => now (was.cons (ticket?_ne rfl))
      have := j.only u (running u hu).1 t ht (same.symm.trans ours) before ((ran.current_iff ht).1 current)
      exact absurd this (running u hu).2

theorem invalidate (j : Joined c past) (pair : Pair) : Joined (c.invalidate pair).2 (.invalidated pair :: past) := by
  refine j.step rfl (fun _ => id) ?_ fun t _ _ e he same => ⟨e, List.mem_of_mem_filter he, same⟩
  intro t _ now hp
  rw [overtaken_invalidated, not_or] at now
  exact List.mem_filter.2 ⟨hp, decide_eq_true now.1⟩

theorem shutdown (j : Joined c past) : Joined c.shutdown (.closed :: past) :=
  j.step rfl (fun _ => id) (fun _ _ now => absurd overtaken_closed now) nofun

end Joined

theorem Ran.joined (ran : Ran c past) : Joined c past := by
  induction ran with
  | new config => exact .new config
  | lookup key ran ih => exact ih.lookup ran.recorded key
  | finish load ran ht ih => exact ih.finish ran ht load
  | release _ _ _ ih => exact ih.step rfl (fun _ => id) (fun _ _ _ => id) fun _ _ _ e he same => ⟨e, he, same⟩
  | invalidate pair _ ih => exact ih.invalidate pair
  | shutdown _ ih => exact ih.shutdown
  | count _ _ _ ih => exact { ih with }

/-! ### Two loads of one key -/

/-- When a load begins while another one of its key has not ended, their pair was invalidated since the other one began. -/
def Separated (past : List (Happening α)) : Prop :=
  ∀ after key u earlier, past = after ++ .looked key (.began u) :: earlier →
    ∀ t ∈ unfinished past, t ∈ begun earlier → t.key = u.key → .invalidated t.key.pair ∈ since t earlier

theorem mem_unfinished_of_cons (ht : t ∈ unfinished (h :: past)) (other : h.ticket? ≠ some t) : t ∈ unfinished past := by
  cases h with
  | looked key l =>
    cases l with
    | began u =>
      refine (List.mem_cons.1 ht).resolve_left fun same => other ?_
      rw [same, Happening.ticket?]
    | _ => exact ht
  | ended u load => exact List.mem_of_mem_erase ht
  | _ => exact ht

theorem Separated.cons (s : Separated past) (begins : ∀ t ∈ begun past, h.ticket? ≠ some t)
    (first : ∀ u, h.ticket? = some u → ∀ t ∈ unfinished past, t.key = u.key → .invalidated t.key.pair ∈ since t past) :
    Separated (h :: past) := by
  intro after key u earlier eq t ht began same
  rcases List.cons_eq_append_iff.1 eq with ⟨rfl, eq⟩ | ⟨after, rfl, rfl⟩
  · obtain ⟨rfl, rfl⟩ := List.cons.inj eq
    exact first u rfl t (mem_unfinished_of_cons ht (begins t began)) same
  · have began' : t ∈ begun (after ++ .looked key (.began u) :: earlier) := by
      rw [begun_append, begun_began]
      exact List.mem_append_right _ (List.mem_cons_of_mem _ began)
    exact s after key u earlier rfl t (mem_unfinished_of_cons ht (begins t began')) began same

theorem Separated.step (s : Separated past) (quiet : h.ticket? = none) : Separated (h :: past) :=
  s.cons (fun _ _ => ticket?_ne quiet) fun _ began => absurd began (ticket?_ne quiet)

theorem Ran.separated (ran : Ran c past) : Separated past := by
  induction ran with
  | new config => intro; simp
  | @lookup c past key ran ih =>
    rcases lookup_cases c key with ⟨-, eq⟩ | ⟨e, -, -, eq⟩ | ⟨p, -, -, -, -, eq⟩ | ⟨opened, -, alone, eq⟩ <;> rw [eq]
    · exact ih.step rfl
    · exact ih.step rfl
    · exact ih.step rfl
    · refine ih.cons (fun _ => ran.recorded.begins_began) ?_
      rintro u ⟨⟩ t ht same
      by_contra current
      have closed : .closed ∉ since t past := fun hc => by
        simp [ran.recorded.closed.2 ((List.takeWhile_sublist _).subset hc)] at opened
      exact alone _ (ran.joined.pending t ht (not_or.2 ⟨current, closed⟩)) same
  | finish _ _ _ ih => exact ih.step rfl
  | release _ _ _ ih => exact ih.step rfl
  | invalidate _ _ ih => exact ih.step rfl
  | shutdown _ ih => exact ih.step rfl
  | count _ _ _ ih => exact ih

/-! ### The whole -/

/-- What holds of a cache after the steps `past`, whatever loads they belong to. -/
structure Coalesces (c : Cache α) (past : List (Happening α)) : Prop where
  /-- A load that ends with a value keeps it just if it has not been overtaken. -/
  kept : ∀ t ∈ unfinished past, ∀ a, (c.finish t (.loaded a)).1 = true ↔ ¬Overtaken t past
  /-- What is kept comes last, is there afterwards, and replaces nothing. -/
  added : ∀ t ∈ unfinished past, ∀ a, ¬Overtaken t past → c.entry? t.key = none ∧
    entry? (c.finish t (.loaded a)).2 t.key = some ⟨t.key, a, 0⟩ ∧
    ∃ dropped, dropped ++ (c.finish t (.loaded a)).2.entries = c.entries ++ [⟨t.key, a, 0⟩]
  /-- A load that has been overtaken or has no value leaves the entries as they are. -/
  left : ∀ t ∈ unfinished past, ∀ load, (Overtaken t past ∨ ∀ a, load ≠ .loaded a) → (c.finish t load).2.entries = c.entries
  /-- Of two loads of one key that have not ended, the first was overtaken before the second began: by an invalidation. -/
  apart : Separated past
  /-- Each load is one load, and each pair has one generation at most. -/
  begun : (begun past).Nodup
  distinct : (c.generations.map (·.pair)).Nodup
  /-- A pair has a generation just while some load of it has its slot. -/
  generation_iff : ∀ pair, (∃ g ∈ c.generations, g.pair = pair) ↔ ∃ t ∈ holding past, t.key.pair = pair
  /-- A generation counts the slots of its pair. -/
  running : ∀ g ∈ c.generations, g.running = slots g.pair past

theorem Ran.coalesces (ran : Ran c past) : Coalesces c past := by
  refine ⟨fun t => ran.kept_iff, ?_, ?_, ran.separated, .of_map _ ran.recorded.ids, ran.held.distinct, ?_, ran.held.running⟩
  · intro t ht a current
    have absent : c.entry? t.key = none := entry?_eq_none.2 (ran.joined.absent t ht current)
    obtain ⟨dropped, all, kept⟩ := entries_insert (c := c.settle t) absent a
    rw [finish_loaded, if_pos ((ran.current_iff ht).2 current)]
    exact ⟨absent, kept, dropped, all⟩
  · intro t ht load ending
    cases load with
    | crashed => rfl
    | failed => rfl
    | loaded a =>
      have overtaken := ending.resolve_right fun none => none a rfl
      rw [finish_loaded, if_neg fun current => (ran.current_iff ht).1 current overtaken]
      rfl
  · intro pair
    constructor
    · rintro ⟨g, hg, rfl⟩
      by_contra none
      have nothing : slots g.pair past = 0 := slots_eq_zero.2 fun t ht same => none ⟨t, ht, same⟩
      exact ran.held.used g hg (nothing ▸ ran.held.running g hg)
    · rintro ⟨t, ht, rfl⟩
      obtain ⟨g, hg, same, -⟩ := ran.held.current t ht
      exact ⟨g, hg, same⟩

/-- Two loads of one key run together after the first one was invalidated. -/
theorem coalesces_invalidated :
    let key : CacheKey := ⟨"momentum", 1, "5f"⟩
    let first : Ticket := ⟨key, 0, 0⟩
    let second : Ticket := ⟨key, 1, 1⟩
    let past : List (Happening Nat) :=
      [.looked key (.began second), .invalidated key.pair, .looked key (.began first)]
    let c : Cache Nat := ⟨8, [], [⟨key, 1⟩], [⟨key.pair, 1, 2⟩], false, 2, 0, 2, 0, 0, 0⟩
    Ran c past ∧ unfinished past = [second, first] ∧ Coalesces c past := by
  intro key first second past c
  have ran : Ran c past := (((Ran.new ⟨8⟩).lookup key).invalidate key.pair).lookup key
  exact ⟨ran, rfl, ran.coalesces⟩

end StrategyHost.Cache
