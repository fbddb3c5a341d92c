import Mathlib.Data.List.Nodup
import StrategyHost.Cache.Basic

/-!
# Steps of a cache

What each atomic step of a cache does: the cases of a lookup (`lookup_cases`), the end of a load (`finish_loaded`), a value that
is kept for the first time (`entries_insert`), and what each step does to the generations.
-/

namespace StrategyHost.Cache
variable {α : Type} {c : Cache α} {key : CacheKey} {t : Ticket} {pair : Pair} {g : Generation} {gs : List Generation}
  {f : Generation → Generation}

/-! ### Entries -/

theorem entry?_eq_none : c.entry? key = none ↔ ∀ e ∈ c.entries, e.key ≠ key := by
  simp [ entry?]

theorem mem_of_found {e : CacheEntry α} (h : c.entry? key = some e) : e ∈ c.entries ∧ e.key = key :=
  ⟨List.mem_of_find?_eq_some h, by simpa using List.find?_some h⟩

theorem entries_touch {e : CacheEntry α} (distinct : (c.entries.map (·.key)).Nodup) (mem : e ∈ c.entries) :
    ∃ before after, c.entries = before ++ e :: after ∧
      (c.touch e).entries = before ++ after ++ [{ e with hits := e.hits + 1 }] := by
  obtain ⟨before, after, eq⟩ := List.append_of_mem mem
  refine ⟨before, after, eq, ?_⟩
  rw [eq, List.map_append, List.map_cons, List.nodup_middle, List.nodup_cons, ← List.map_append] at distinct
  have others : (before ++ after).filter (·.key ≠ e.key) = before ++ after := by
    refine List.filter_eq_self.2 fun e' he' => decide_eq_true fun same => ?_
    exact distinct.1 (List.mem_map.2 ⟨e', he', same⟩)
  rw [List.filter_append] at others
  simp only [touch, eq, List.filter_append, List.filter_cons, ne_eq, not_true, decide_false, Bool.false_eq_true, ↓reduceIte]
  exact congrArg (· ++ _) others

/-- A lookup is refused, hits, joins or begins a load. -/
theorem lookup_cases (c : Cache α) (key : CacheKey) :
    c.closed = true ∧ c.lookup key = (.closed, c) ∨
    (∃ e, c.closed = false ∧ c.entry? key = some e ∧ c.lookup key = (.hit e.value, c.touch e)) ∨
    (∃ p ∈ c.pending, c.closed = false ∧ c.entry? key = none ∧ p.key = key ∧ c.lookup key = (.joined p.id, c)) ∨
    c.closed = false ∧ c.entry? key = none ∧ (∀ p ∈ c.pending, p.key ≠ key) ∧
      c.lookup key = (.began (c.begin key).1, (c.begin key).2) := by
  rw [lookup]
  cases c.closed with
  | true => exact .inl ⟨rfl, rfl⟩
  | false =>
    cases c.entry? key with
    | some e => exact .inr (.inl ⟨e, rfl, rfl, rfl⟩)
    | none =>
      cases joined : c.pending.find? (·.key = key) with
      | some p =>
        exact .inr (.inr (.inl ⟨p, List.mem_of_find?_eq_some joined, rfl, rfl, by simpa using List.find?_some joined, rfl⟩))
      | none => exact .inr (.inr (.inr ⟨rfl, rfl, by simpa using joined, rfl⟩))

theorem begin_snd (c : Cache α) (key : CacheKey) : (c.begin key).2 =
    { c with
      misses := c.misses + 1
      nextId := c.nextId + 1
      pending := c.pending ++ [⟨key, c.nextId⟩]
      generations := (c.hold key.pair).generations } := by
  unfold begin hold
  dsimp only
  split <;> rfl

/-- A loaded value is kept if the cache is open and the generation of its pair is the one that the load began under. -/
theorem finish_loaded (c : Cache α) (t : Ticket) (a : α) :
    c.finish t (.loaded a) =
      if c.closed = false ∧ c.generationOf t.key.pair = t.generation then (true, (c.settle t).insert t.key a)
      else (false, c.settle t) := by
  have settled : (c.settle t).generationOf t.key.pair = c.generationOf t.key.pair := rfl
  simp only [finish, settled]
  by_cases current : c.generationOf t.key.pair = t.generation <;> cases opened : c.closed <;> simp [settle, current, opened]

theorem insert_of_none (h : c.entry? key = none) (a : α) :
    c.insert key a = evict { c with entries := c.entries ++ [⟨key, a, 0⟩] } := by
  rw [insert, h]

/-- There is room for what was used last. -/
theorem entries_insert (h : c.entry? key = none) (a : α) :
    ∃ dropped, dropped ++ (c.insert key a).entries = c.entries ++ [⟨key, a, 0⟩] ∧
      entry? (c.insert key a) key = some ⟨key, a, 0⟩ := by
  obtain ⟨excess, excess_le, kept⟩ : ∃ excess ≤ c.entries.length,
      (c.insert key a).entries = c.entries.drop excess ++ [⟨key, a, 0⟩] := by
    have room : (c.entries ++ [CacheEntry.mk key a 0]).length - c.capacity ≤ c.entries.length := by
      rw [List.length_append, List.length_singleton, capacity]
      omega
    refine ⟨_, room, ?_⟩
    rw [insert_of_none h]
    exact List.drop_append_of_le_length room
  have others : (c.entries.drop excess).find? (·.key = key) = none := by
    refine List.find?_eq_none.2 fun e he => ?_
    simpa using entry?_eq_none.1 h e (List.mem_of_mem_drop he)
  refine ⟨c.entries.take excess, ?_, ?_⟩
  · rw [kept, ← List.append_assoc, List.take_append_drop]
  · rw [ entry?, kept, List.find?_append, others]
    simp

theorem length_entries_insert (h : c.entry? key = none) (a : α) :
    (c.insert key a).entries.length = min (c.entries.length + 1) c.capacity := by
  simp only [insert_of_none h, evict, capacity, List.length_drop, List.length_append, List.length_singleton]
  omega

theorem size_insert (h : c.entry? key = none) (a : α) :
    (c.insert key a).size + (c.insert key a).evictions = c.size + 1 + c.evictions := by
  simp only [insert_of_none h, evict, size, capacity, List.length_drop, List.length_append, List.length_singleton]
  omega

theorem mem_entries_insert {e : CacheEntry α} {a : α} (he : e ∈ (c.insert key a).entries) : e.key = key ∨ e ∈ c.entries := by
  cases h : c.entry? key with
  | none =>
    obtain ⟨dropped, all, -⟩ := entries_insert h a
    have : e ∈ c.entries ++ [⟨key, a, 0⟩] := all ▸ List.mem_append_right _ he
    rcases List.mem_append.1 this with old | new
    · exact .inr old
    · exact .inl (by rw [List.mem_singleton.1 new])
  | some _ =>
    rw [insert, h] at he
    obtain ⟨e', he', rfl⟩ := List.mem_map.1 he
    split
    · exact .inl rfl
    · exact .inr he'

/-! ### What insertion leaves alone -/

section
variable (c : Cache α) (key : CacheKey) (a : α)

@[simp] theorem generations_insert : (c.insert key a).generations = c.generations := by
  unfold insert evict; split <;> rfl

@[simp] theorem pending_insert : (c.insert key a).pending = c.pending := by
  unfold insert evict; split <;> rfl

@[simp] theorem closed_insert : (c.insert key a).closed = c.closed := by
  unfold insert evict; split <;> rfl

@[simp] theorem capacity_insert : (c.insert key a).capacity = c.capacity := by
  unfold insert evict; split <;> rfl

@[simp] theorem hits_insert : (c.insert key a).hits = c.hits := by
  unfold insert evict; split <;> rfl

@[simp] theorem nextId_insert : (c.insert key a).nextId = c.nextId := by
  unfold insert evict; split <;> rfl

end

/-- The end of a load leaves everything but entries, evictions and the load alone. -/
structure AfterFinish (t : Ticket) (c c' : Cache α) : Prop where
  generations : c'.generations = c.generations
  closed : c'.closed = c.closed
  nextId : c'.nextId = c.nextId
  pending : ∀ p ∈ c.pending, p ≠ ⟨t.key, t.id⟩ → p ∈ c'.pending
  entries : ∀ e ∈ c'.entries, e ∈ c.entries ∨ e.key = t.key ∧ c.closed = false ∧ c.generationOf t.key.pair = t.generation

theorem mem_pending_settle {p : PendingLoad} (hp : p ∈ c.pending) (other : p ≠ ⟨t.key, t.id⟩) : p ∈ (c.settle t).pending := by
  refine List.mem_filter.2 ⟨hp, ?_⟩
  rcases p with ⟨key, id⟩
  simp only [ne_eq, PendingLoad.mk.injEq, not_and] at other
  simp only [ne_eq, Bool.or_eq_true, decide_eq_true_eq]
  by_cases same : key = t.key
  · exact .inr (other same)
  · exact .inl same

theorem afterFinish (c : Cache α) (t : Ticket) (load : LoadEnd α) : AfterFinish t c (c.finish t load).2 := by
  have settled : AfterFinish t c (c.settle t) := ⟨rfl, rfl, rfl, fun _ => mem_pending_settle, fun _ => .inl⟩
  cases load with
  | crashed => exact ⟨rfl, rfl, rfl, fun _ hp _ => hp, fun _ => .inl⟩
  | failed => exact settled
  | loaded a =>
    rw [finish_loaded]
    split
    · rename_i kept
      refine ⟨by simp [settle], by simp [settle], by simp [settle], fun p hp other => ?_, fun e he => ?_⟩
      · rw [pending_insert]
        exact mem_pending_settle hp other
      · rcases mem_entries_insert he with same | old
        · exact .inr ⟨same, kept⟩
        · exact .inl old
    · exact settled

/-! ### Generations -/

theorem mem_updateGeneration : g ∈ updateGeneration pair f gs ↔ ∃ g' ∈ gs, g = if g'.pair = pair then f g' else g' := by
  simp only [updateGeneration, List.mem_map, eq_comm]

theorem pairs_updateGeneration (same : ∀ g, (f g).pair = g.pair) :
    (updateGeneration pair f gs).map (·.pair) = gs.map (·.pair) := by
  rw [updateGeneration, List.map_map]
  refine List.map_congr_left fun g _ => ?_
  simp only [Function.comp]
  split
  · exact same g
  · rfl

theorem eq_of_pair (distinct : (gs.map (·.pair)).Nodup) {g g' : Generation} (hg : g ∈ gs) (hg' : g' ∈ gs)
    (same : g.pair = g'.pair) : g = g' :=
  List.inj_on_of_nodup_map distinct hg hg' same

theorem generationOf_of_mem (distinct : (c.generations.map (·.pair)).Nodup) (hg : g ∈ c.generations) :
    c.generationOf g.pair = g.value := by
  rw [generationOf, generation?]
  cases found : c.generations.find? (·.pair = g.pair) with
  | none => simpa using List.find?_eq_none.1 found g hg
  | some g' =>
    have same : g'.pair = g.pair := by simpa using List.find?_some found
    rw [eq_of_pair distinct (List.mem_of_find?_eq_some found) hg same]

theorem hold_cases (c : Cache α) (pair : Pair) :
    (∃ g ∈ c.generations, g.pair = pair ∧ c.generationOf pair = g.value ∧
      (c.hold pair).generations = updateGeneration pair (fun g => { g with running := g.running + 1 }) c.generations) ∨
    (∀ g ∈ c.generations, g.pair ≠ pair) ∧ c.generationOf pair = 0 ∧
      (c.hold pair).generations = c.generations ++ [⟨pair, 0, 1⟩] := by
  rw [hold, generationOf]
  cases found : c.generation? pair with
  | some g => exact .inl ⟨g, List.mem_of_find?_eq_some found, by simpa using List.find?_some found, rfl, rfl⟩
  | none => exact .inr ⟨by simpa [generation?] using found, rfl, rfl⟩

theorem mem_release : g ∈ (c.release t).generations ↔
    (∃ g' ∈ c.generations, g = if g'.pair = t.key.pair then { g' with running := g'.running - 1 } else g') ∧
      (g.pair = t.key.pair → g.running ≠ 0) := by
  simp only [release, List.mem_filter, mem_updateGeneration, Bool.or_eq_true, decide_eq_true_eq, ne_eq, Decidable.imp_iff_not_or]

end StrategyHost.Cache
