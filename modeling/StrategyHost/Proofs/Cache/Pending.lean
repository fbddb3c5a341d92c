import StrategyHost.Proofs.Cache.Coalescing

/-!
# Loads that lookups join

A load is pending from its begin on, and lookups of its key join it. `Waiting` says exactly which loads are pending in a cache that
steps have led to: those that have not been overtaken, as long as they run, and those of them that have crashed. A load that ends with
a value or an error takes itself away; one that crashes does not get to that. Main statement: `Ran.lingers_iff`, what becomes of a
load that is finished, and so what the next lookup of its key comes to.
-/

namespace StrategyHost.Cache
variable {α : Type} {c c' : Cache α} {past : List (Happening α)} {h : Happening α} {t u : Ticket} {key : CacheKey} {pair : Pair}
  {load : LoadEnd α}

def Crashed (t : Ticket) (past : List (Happening α)) : Prop := .ended t .crashed ∈ past

/-- The load has not been overtaken, and it runs or has crashed. -/
def Joinable (t : Ticket) (past : List (Happening α)) : Prop := ¬Overtaken t past ∧ (t ∈ unfinished past ∨ Crashed t past)

/-! ### Loads that are finished -/

theorem Ran.begins_new (ran : Ran c past) (key : CacheKey) (began : t ∈ begun past) :
    (Happening.looked key (c.lookup key).1).ticket? ≠ some t := by
  intro begins
  cases found : (c.lookup key).1 with
  | began u =>
    rw [found] at begins
    obtain rfl : u = t := Option.some.inj begins
    exact (ran.recorded.of_began found).2 began
  | _ =>
    rw [found] at begins
    cases begins

theorem begun_subset (h : Happening α) (past : List (Happening α)) : begun past ⊆ begun (h :: past) :=
  ((List.sublist_cons_self h past).filterMap _).subset

theorem Ran.of_ended (ran : Ran c past) (ended : .ended t load ∈ past) : t ∈ begun past ∧ t ∉ unfinished past := by
  induction ran with
  | new config => cases ended
  | lookup key ran ih =>
    obtain ⟨began, finished⟩ := ih ((List.mem_cons.1 ended).resolve_left nofun)
    exact ⟨begun_subset _ _ began, fun again => finished (mem_unfinished_of_cons again (ran.begins_new key began))⟩
  | @finish c past u load' ran running ih =>
    rcases List.mem_cons.1 ended with same | before
    · cases same
      exact ⟨(unfinished_sublist past).subset running, ran.recorded.nodup_unfinished.not_mem_erase⟩
    · obtain ⟨began, finished⟩ := ih before
      exact ⟨began, fun again => finished (List.mem_of_mem_erase again)⟩
  | release _ _ _ ih => exact ih ((List.mem_cons.1 ended).resolve_left nofun)
  | invalidate pair _ ih => exact ih ((List.mem_cons.1 ended).resolve_left nofun)
  | shutdown _ ih => exact ih ((List.mem_cons.1 ended).resolve_left nofun)
  | count _ _ _ ih => exact ih ended

theorem overtaken_cons (begins : h.ticket? ≠ some t) (valid : h ≠ .invalidated t.key.pair) (opened : h ≠ .closed) :
    Overtaken t (h :: past) ↔ Overtaken t past := by
  rw [Overtaken, since_cons begins, List.mem_cons, List.mem_cons, or_iff_right valid.symm, or_iff_right opened.symm, Overtaken]

theorem joinable_cons (other : h.of? ≠ some t) (begins : h.ticket? ≠ some t) (valid : h ≠ .invalidated t.key.pair)
    (opened : h ≠ .closed) : Joinable t (h :: past) ↔ Joinable t past := by
  have ended : Happening.ended t .crashed ≠ h := by
    rintro rfl
    exact other rfl
  rw [Joinable, overtaken_cons begins valid opened, mem_unfinished_cons other, Crashed, List.mem_cons, or_iff_right ended]
  rfl

/-! ### Which loads are pending -/

/-- What the past tells about the pending loads: which there are, one for each key at most, with nothing kept under its key. -/
structure Waiting (c : Cache α) (past : List (Happening α)) : Prop where
  pending : ∀ p, p ∈ c.pending ↔ ∃ t ∈ begun past, Joinable t past ∧ p = ⟨t.key, t.id⟩
  keys : (c.pending.map (·.key)).Nodup
  absent : ∀ p ∈ c.pending, ∀ e ∈ c.entries, e.key ≠ p.key

theorem mem_pending_settle_iff {p : PendingLoad} : p ∈ (c.settle t).pending ↔ p ∈ c.pending ∧ p ≠ ⟨t.key, t.id⟩ := by
  refine ⟨fun hp => ?_, fun ⟨hp, other⟩ => mem_pending_settle hp other⟩
  obtain ⟨before, other⟩ := List.mem_filter.1 hp
  refine ⟨before, ?_⟩
  rintro rfl
  simp at other

theorem pending_finish (ends : load ≠ .crashed) : (c.finish t load).2.pending = (c.settle t).pending := by
  cases load with
  | crashed => exact absurd rfl ends
  | failed => rfl
  | loaded a =>
    rw [finish_loaded]
    split
    · exact pending_insert ..
    · rfl

namespace Waiting

theorem mem_pending (w : Waiting c past) (ran : Ran c past) (began : t ∈ begun past) :
    ⟨t.key, t.id⟩ ∈ c.pending ↔ Joinable t past := by
  rw [w.pending]
  constructor
  · rintro ⟨u, hu, joinable, same⟩
    rwa [ran.recorded.eq_of_id began hu (PendingLoad.mk.inj same).2]
  · exact fun joinable => ⟨t, began, joinable, rfl⟩

theorem eq_of_key (w : Waiting c past) {p q : PendingLoad} (hp : p ∈ c.pending) (hq : q ∈ c.pending) (same : p.key = q.key) :
    p = q := List.inj_on_of_nodup_map w.keys hp hq same

theorem new (config : CacheConfig) : Waiting (Cache.new config : Cache α) [] :=
  ⟨fun _ => ⟨nofun, fun ⟨_, ht, _⟩ => nomatch ht⟩, .nil, nofun⟩

theorem step (w : Waiting c past) (quiet : h.ticket? = none) (sub : c'.pending.Sublist c.pending)
    (stays : ∀ t ∈ begun past, Joinable t (h :: past) ↔ Joinable t past ∧ ⟨t.key, t.id⟩ ∈ c'.pending)
    (entries : ∀ e ∈ c'.entries, (∃ e' ∈ c.entries, e'.key = e.key) ∨ ∀ p ∈ c'.pending, p.key ≠ e.key) :
    Waiting c' (h :: past) := by
  refine ⟨fun p => ?_, w.keys.sublist (sub.map _), fun p hp e he same => ?_⟩
  · rw [begun_cons quiet]
    constructor
    · intro hp
      obtain ⟨t, ht, joinable, rfl⟩ := (w.pending p).1 (sub.subset hp)
      exact ⟨t, ht, (stays t ht).2 ⟨joinable, hp⟩, rfl⟩
    · rintro ⟨t, ht, joinable, rfl⟩
      exact ((stays t ht).1 joinable).2
  · rcases entries e he with ⟨e', he', old⟩ | alone
    · exact w.absent p (sub.subset hp) e' he' (old.trans same)
    · exact alone p hp same.symm

theorem still (w : Waiting c past) (ran : Ran c past) (quiet : h.ticket? = none) (pending : c'.pending = c.pending)
    (stays : ∀ t ∈ begun past, Joinable t (h :: past) ↔ Joinable t past)
    (entries : ∀ e ∈ c'.entries, ∃ e' ∈ c.entries, e'.key = e.key) : Waiting c' (h :: past) := by
  refine w.step quiet (pending ▸ .refl _) (fun t ht => ?_) fun e he => .inl (entries e he)
  rw [stays t ht, pending, w.mem_pending ran ht, and_self_iff]

theorem begin (w : Waiting c past) (r : Recorded c past) (absent : c.entry? key = none) (alone : ∀ p ∈ c.pending, p.key ≠ key) :
    Waiting (c.begin key).2 (.looked key (.began (c.begin key).1) :: past) := by
  have older : ∀ t ∈ begun past, Joinable t (.looked key (.began (c.begin key).1) :: past) ↔ Joinable t past := by
    intro t ht
    have begins : (Happening.looked key (.began (c.begin key).1) : Happening α).ticket? ≠ some t := r.begins_began ht
    exact joinable_cons begins begins nofun nofun
  have newer : Joinable (c.begin key).1 (.looked key (.began (c.begin key).1) :: past) := by
    refine ⟨?_, .inl (List.mem_cons_self ..)⟩
    rw [Overtaken, since_began]
    simp
  rw [begin_snd]
  refine ⟨fun p => ?_, ?_, ?_⟩
  · rw [List.mem_append, w.pending, begun_began, List.exists_mem_cons_iff]
    constructor
    · rintro (⟨t, ht, joinable, rfl⟩ | new)
      · exact .inr ⟨t, ht, (older t ht).2 joinable, rfl⟩
      · exact .inl ⟨newer, List.mem_singleton.1 new⟩
    · rintro (⟨-, rfl⟩ | ⟨t, ht, joinable, rfl⟩)
      · exact .inr (List.mem_singleton.2 rfl)
      · exact .inl ⟨t, ht, (older t ht).1 joinable, rfl⟩
  · rw [List.map_append]
    refine List.nodup_append.2 ⟨w.keys, by simp, ?_⟩
    simpa using alone
  · intro p hp e he
    rcases List.mem_append.1 hp with old | new
    · exact w.absent p old e he
    · rw [List.mem_singleton.1 new]
      exact entry?_eq_none.1 absent e he

theorem lookup (w : Waiting c past) (ran : Ran c past) (key : CacheKey) :
    Waiting (c.lookup key).2 (.looked key (c.lookup key).1 :: past) := by
  rcases lookup_cases c key with ⟨-, eq⟩ | ⟨e, -, hit, eq⟩ | ⟨p, -, -, -, -, eq⟩ | ⟨-, absent, alone, eq⟩ <;> rw [eq]
  · exact w.still ran rfl rfl (fun t _ => joinable_cons nofun nofun nofun nofun) fun e he => ⟨e, he, rfl⟩
  · refine w.still ran rfl rfl (fun t _ => joinable_cons nofun nofun nofun nofun) fun e' he' => ?_
    rcases List.mem_append.1 he' with old | used
    · exact ⟨e', List.mem_of_mem_filter old, rfl⟩
    · rw [List.mem_singleton.1 used]
      exact ⟨e, (mem_of_found hit).1, rfl⟩
  · exact w.still ran rfl rfl (fun t _ => joinable_cons nofun nofun nofun nofun) fun e he => ⟨e, he, rfl⟩
  · exact w.begin ran.recorded absent alone

theorem crash (w : Waiting c past) (ran : Ran c past) (running : u ∈ unfinished past) :
    Waiting c (.ended u .crashed :: past) := by
  refine w.still ran rfl rfl (fun t ht => ?_) fun e he => ⟨e, he, rfl⟩
  by_cases same : t = u
  · subst same
    have calm : Overtaken t (.ended t .crashed :: past) ↔ Overtaken t past := overtaken_cons nofun nofun nofun
    rw [Joinable, calm]
    exact and_congr_right fun _ => ⟨fun _ => .inl running, fun _ => .inr (List.mem_cons_self ..)⟩
  · have other : (Happening.ended u .crashed : Happening α).of? ≠ some t := fun of => same (Option.some.inj of).symm
    exact joinable_cons other nofun nofun nofun

theorem finish (w : Waiting c past) (ran : Ran c past) (running : u ∈ unfinished past) (ends : load ≠ .crashed) :
    Waiting (c.finish u load).2 (.ended u load :: past) := by
  have began : u ∈ begun past := (unfinished_sublist past).subset running
  have pending := pending_finish (c := c) (t := u) ends
  refine w.step rfl (pending ▸ List.filter_sublist) (fun t ht => ?_) fun e he => ?_
  · rw [pending, mem_pending_settle_iff, w.mem_pending ran ht]
    by_cases same : t = u
    · subst same
      refine iff_of_false ?_ fun gone => gone.2.2 rfl
      rintro ⟨-, again | crashed⟩
      · exact ran.recorded.nodup_unfinished.not_mem_erase again
      · have before := (List.mem_cons.1 crashed).resolve_left fun now => ends (by cases now; rfl)
        exact (ran.of_ended before).2 running
    · have other : (Happening.ended u load).of? ≠ some t := fun of => same (Option.some.inj of).symm
      have apart : (⟨t.key, t.id⟩ : PendingLoad) ≠ ⟨u.key, u.id⟩ := fun one =>
        same (ran.recorded.eq_of_id ht began (PendingLoad.mk.inj one).2)
      rw [joinable_cons other nofun nofun nofun]
      exact ⟨fun joinable => ⟨joinable, joinable, apart⟩, And.left⟩
  · rcases (afterFinish c u load).entries e he with old | ⟨ours, current⟩
    · exact .inl ⟨e, old, rfl⟩
    · -- a load that leaves an entry was the pending one of its key
      refine .inr fun p hp same => ?_
      rw [pending, mem_pending_settle_iff] at hp
      have joinable : Joinable u past := ⟨(ran.current_iff running).1 current, .inl running⟩
      exact hp.2 (w.eq_of_key hp.1 ((w.mem_pending ran began).2 joinable) (same.trans ours))

theorem invalidate (w : Waiting c past) (ran : Ran c past) (pair : Pair) :
    Waiting (c.invalidate pair).2 (.invalidated pair :: past) := by
  refine w.step rfl List.filter_sublist (fun t ht => ?_) fun e he => .inl ⟨e, List.mem_of_mem_filter he, rfl⟩
  have left : ⟨t.key, t.id⟩ ∈ (c.invalidate pair).2.pending ↔ ⟨t.key, t.id⟩ ∈ c.pending ∧ t.key.pair ≠ pair := by
    rw [Cache.invalidate, List.mem_filter, decide_eq_true_iff]
  have crashed : Crashed t (.invalidated pair :: past) ↔ Crashed t past := List.mem_cons.trans (or_iff_right nofun)
  rw [left, w.mem_pending ran ht, Joinable, overtaken_invalidated, not_or, crashed]
  show (_ ∧ (t ∈ unfinished past ∨ _)) ↔ _
  rw [Joinable]
  tauto

theorem shutdown (w : Waiting c past) : Waiting c.shutdown (.closed :: past) := by
  refine w.step rfl (List.nil_sublist _) (fun t _ => ?_) nofun
  exact iff_of_false (fun joinable => joinable.1 overtaken_closed) nofun

end Waiting

theorem Ran.waiting (ran : Ran c past) : Waiting c past := by
  induction ran with
  | new config => exact .new config
  | lookup key ran ih => exact ih.lookup ran key
  | @finish c past u load ran running ih =>
    by_cases ends : load = .crashed
    · subst ends
      exact ih.crash ran running
    · exact ih.finish ran running ends
  | @release c past u ran _ _ ih =>
    refine ih.still ran rfl rfl (fun t _ => ?_) fun e he => ⟨e, he, rfl⟩
    have calm : Overtaken t (.released u :: past) ↔ Overtaken t past := overtaken_cons nofun nofun nofun
    have crashed : Crashed t (.released u :: past) ↔ Crashed t past := List.mem_cons.trans (or_iff_right nofun)
    rw [Joinable, calm, crashed]
    rfl
  | invalidate pair ran ih => exact ih.invalidate ran pair
  | shutdown _ ih => exact ih.shutdown
  | count _ _ _ ih => exact ⟨ih.pending, ih.keys, ih.absent⟩

/-! ### The next lookup -/

/-- A load that is finished is still pending, and what the next lookup of its key joins, just if it has crashed and was not overtaken.
Otherwise the next lookup hits, begins a load, or joins another load of the key. -/
theorem Ran.lingers_iff (ran : Ran c past) (opened : c.closed = false) (began : t ∈ begun past) (finished : t ∉ unfinished past) :
    (⟨t.key, t.id⟩ ∈ c.pending ↔ Crashed t past ∧ ¬Overtaken t past) ∧
    ((c.lookup t.key).1 = .joined t.id ↔ Crashed t past ∧ ¬Overtaken t past) ∧
    (¬(Crashed t past ∧ ¬Overtaken t past) →
      (∃ a, (c.lookup t.key).1 = .hit a) ∨ (∃ u, (c.lookup t.key).1 = .began u ∧ u.key = t.key ∧ u ∉ begun past) ∨
      ∃ u ∈ begun past, u ≠ t ∧ u.key = t.key ∧ ¬Overtaken u past ∧ (u ∈ unfinished past ∨ Crashed u past) ∧
        (c.lookup t.key).1 = .joined u.id) := by
  have w := ran.waiting
  have pending : ⟨t.key, t.id⟩ ∈ c.pending ↔ Crashed t past ∧ ¬Overtaken t past := by
    rw [w.mem_pending ran began, Joinable, or_iff_right finished, and_comm]
  rw [← pending]
  rcases lookup_cases c t.key with ⟨closed, -⟩ | ⟨e, -, hit, eq⟩ | ⟨p, hp, -, absent, same, eq⟩ | ⟨-, absent, alone, eq⟩
  · rw [opened] at closed
    cases closed
  · obtain ⟨he, ours⟩ := mem_of_found hit
    have gone : ⟨t.key, t.id⟩ ∉ c.pending := fun hp => w.absent _ hp e he ours
    rw [eq]
    exact ⟨.rfl, iff_of_false nofun gone, fun _ => .inl ⟨_, rfl⟩⟩
  · have mine : p.id = t.id ↔ ⟨t.key, t.id⟩ ∈ c.pending := by
      constructor
      · intro number
        rwa [← same, ← number]
      · exact fun stays => congrArg PendingLoad.id (w.eq_of_key hp stays same)
    rw [eq]
    refine ⟨.rfl, by rw [← mine, Lookup.joined.injEq], fun gone => .inr (.inr ?_)⟩
    obtain ⟨u, hu, ⟨current, running⟩, rfl⟩ := (w.pending p).1 hp
    exact ⟨u, hu, fun one => gone (one ▸ hp), same, current, running, rfl⟩
  · have gone : ⟨t.key, t.id⟩ ∉ c.pending := fun hp => alone _ hp rfl
    obtain ⟨key, fresh⟩ := ran.recorded.of_began (congrArg Prod.fst eq)
    rw [eq]
    exact ⟨.rfl, iff_of_false nofun gone, fun _ => .inr (.inl ⟨_, rfl, key, fresh⟩)⟩

/-- A load that fails is gone, and the next lookup has nothing of it to join. -/
theorem lingers_iff_failed :
    let key : CacheKey := ⟨"momentum", 1, "5f"⟩
    let t : Ticket := ⟨key, 0, 0⟩
    let past : List (Happening Nat) := [.ended t .failed, .looked key (.began t)]
    let c : Cache Nat := ⟨8, [], [], [⟨key.pair, 0, 1⟩], false, 1, 0, 1, 0, 0, 0⟩
    Ran c past ∧ c.closed = false ∧ t ∈ begun past ∧ t ∉ unfinished past ∧ ⟨t.key, t.id⟩ ∉ c.pending ∧
      (c.lookup key).1 ≠ .joined t.id := by
  intro key t past c
  have ran : Ran c past := ((Ran.new ⟨8⟩).lookup key).finish .failed (List.mem_singleton.2 rfl)
  have began : t ∈ begun past := List.mem_singleton.2 rfl
  have finished : t ∉ unfinished past := by decide
  have sound : ¬(Crashed t past ∧ ¬Overtaken t past) := fun lingers => by
    have crashed := lingers.1
    simp [Crashed, past] at crashed
  obtain ⟨pending, joined, -⟩ := ran.lingers_iff rfl began finished
  exact ⟨ran, rfl, began, finished, mt pending.1 sound, mt joined.1 sound⟩

/-- A load that has crashed is what the next lookup joins, and every one after that. -/
theorem not_gone :
    let key : CacheKey := ⟨"momentum", 1, "5f"⟩
    let t : Ticket := ⟨key, 0, 0⟩
    let past : List (Happening Nat) := [.released t, .ended t .crashed, .looked key (.began t)]
    let c : Cache Nat := ⟨8, [], [⟨key, 0⟩], [], false, 1, 0, 1, 0, 0, 0⟩
    Ran c past ∧ c.closed = false ∧ t ∈ begun past ∧ t ∉ unfinished past ∧ t ∉ holding past ∧ ⟨t.key, t.id⟩ ∈ c.pending ∧
      c.lookup key = (.joined t.id, c) := by
  intro key t past c
  have crashed : Ran _ (past.drop 1) := ((Ran.new ⟨8⟩).lookup key).finish .crashed (List.mem_singleton.2 rfl)
  have ran : Ran c past := crashed.release (List.mem_singleton.2 rfl) (by decide)
  exact ⟨ran, rfl, List.mem_singleton.2 rfl, by decide, by decide, List.mem_singleton.2 rfl, rfl⟩

end StrategyHost.Cache
