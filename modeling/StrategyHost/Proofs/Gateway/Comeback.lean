import StrategyHost.Proofs.Gateway.Traffic

/-!
# Snapshots that outlive an invalidation

An invalidation drops the entries of its pair and overtakes the loads that have not ended, and then deletes the snapshot of the pair
from the shared tier. A load that has left its entry before may still have its snapshot to put, and may do so after the deletion.
`Traffic.holds_run_iff`: that is how the snapshot of a load from before an invalidation is in the tier after it, and the only way.
-/

namespace StrategyHost
open Cache (begun Overtaken)

variable {past before after : List Deed} {deed : Deed} {pair : Pair} {t : Ticket} {payload : ByteArray} {i : Nat}

theorem Deed.leaves?_eq_some : deed.leaves? pair = some (some (t, payload)) ↔ deed = .put t pair payload := by
  cases deed with
  | put u p payload' =>
    simp only [leaves?, put.injEq]
    split
    next same => simp [same]
    next other => simp [other]
  | deleted call p =>
    simp only [leaves?]
    split <;> simp
  | _ => simp [leaves?]

theorem left?_eq_some : left? pair past = some (some (t, payload)) ↔
    ∃ later earlier, past = later ++ .put t pair payload :: earlier ∧ ∀ deed ∈ later, deed.leaves? pair = none := by
  rw [left?, List.findSome?_eq_some_iff]
  constructor
  · rintro ⟨later, deed, earlier, past, put, untouched⟩
    exact ⟨later, earlier, Deed.leaves?_eq_some.1 put ▸ past, untouched⟩
  · rintro ⟨later, earlier, past, untouched⟩
    exact ⟨later, _, earlier, past, Deed.leaves?_eq_some.2 rfl, untouched⟩

theorem begun_steps_sublist {earlier : List Deed} (sub : earlier.Sublist past) : (begun (steps earlier)).Sublist (begun (steps past)) :=
  (sub.filterMap Deed.happening?).filterMap Cache.Happening.ticket?

/-- What a load from before an invalidation has kept, it had kept before the invalidation. -/
theorem kept_before (kept : Kept t (after ++ .dropped i pair :: before)) (same : t.key.pair = pair) (began : t ∈ begun (steps before))
    (distinct : (begun (steps (after ++ .dropped i pair :: before))).Nodup) : Kept t before := by
  obtain ⟨h, later, earlier, past, current⟩ := kept
  rcases List.append_eq_append_iff.1 past with ⟨rest, rfl, dropped⟩ | ⟨rest, rfl, ended⟩
  · rcases List.cons_eq_append_iff.1 dropped with ⟨-, ended⟩ | ⟨rest, rfl, rfl⟩
    · cases ended
    · exact ⟨h, rest, earlier, rfl, current⟩
  · rcases List.cons_eq_append_iff.1 ended with ⟨-, ended⟩ | ⟨rest, rfl, rfl⟩
    · cases ended
    · -- the end came after the invalidation, which had overtaken the load
      have overtaken : Overtaken t (steps (.dropped i pair :: before)) := Cache.overtaken_invalidated.2 (.inl same)
      have began : t ∈ begun (steps (.dropped i pair :: before)) := began
      refine absurd ?_ current
      have apart : steps (rest ++ .dropped i pair :: before) = steps rest ++ steps (.dropped i pair :: before) :=
        List.filterMap_append
      rw [apart]
      refine overtaken.append began (apart ▸ distinct.sublist (begun_steps_sublist ?_))
      rw [List.append_assoc]
      exact (List.sublist_cons_self ..).trans (List.sublist_append_right ..)

namespace Traffic
variable {w : Traffic}

/-- The shared tier holds for a pair the snapshot of a load. -/
def Holds (w : Traffic) (pair : Pair) (t : Ticket) : Prop :=
  ∃ tier payload, w.scene.world.tier? = some tier ∧ tier.get pair.1 pair.2 = .ok (some payload) ∧
    left? pair w.past = some (some (t, payload))

theorem Tiered.holds_iff (tiered : w.Tiered) : w.Holds pair t ↔ ∃ payload, left? pair w.past = some (some (t, payload)) := by
  constructor
  · rintro ⟨_, payload, -, -, left⟩
    exact ⟨payload, left⟩
  · rintro ⟨payload, left⟩
    obtain ⟨tier, held, -, has⟩ := tiered
    exact ⟨tier, payload, held, has pair _ left, left⟩

/-! ### A late put -/

/-- A load leaves its entry, then its pair is invalidated from beginning to end, and then the load goes on. -/
def lateTurns (d : Descriptor) : List Turn :=
  [.request d, .load 0, .load 0, .load 0, .invalidate d.cacheKey.pair, .call 0, .call 0, .call 0, .load 0, .load 0]

theorem turn_load_zero {s s' : Scene} {d : Descriptor} {stage stage' : LoadStage} {deed? : Option Deed} {calls : List RunningCall}
    (next : (stage.next d t).run s = ((deed?, stage'), s')) :
    turn ⟨s, [⟨d, t, stage⟩], calls, past⟩ (.load 0) = ⟨s', [⟨d, t, stage'⟩], calls, deed?.toList ++ past⟩ := by
  rw [turn_load rfl]
  simp only [next]
  rfl

theorem run_lateTurns (config : Config) {d : Descriptor} {b : Bound × Strategy} (lazy : config.factory.eagerValidation = false)
    (trusted : d.tier.isShareable = true) (built : Registry.builtin.build d.identity d.payload.params = .ok b) :
    let t : Ticket := ⟨d.cacheKey, 0, 0⟩
    ∃ h payload s calls, (start config []).run (lateTurns d) = ⟨s, [⟨d, t, .released⟩], calls,
      [.step (.released t), .put t d.cacheKey.pair payload, .returned 0 d.cacheKey.pair, .deleted 0 d.cacheKey.pair,
        .dropped 0 d.cacheKey.pair, .step (.ended t (.loaded h)), .step (.looked d.cacheKey (.began t))]⟩ := by
  intro t
  obtain ⟨s₀, requested, cache, tier, settings, registry⟩ : ∃ s₀, (start config []).turn (.request d) =
      ⟨s₀, [⟨d, t, .begun⟩], [], [.step (.looked d.cacheKey (.began t))]⟩ ∧
        s₀.gateway.cache = ((Cache.new config.cache).begin d.cacheKey).2 ∧ s₀.world.tier? = some .empty ∧
        s₀.gateway.config = config ∧ s₀.gateway.registry = .builtin := ⟨_, rfl, rfl, rfl, rfl, rfl⟩
  have looked : (LoadStage.begun.next d t).run s₀ = ((none, .looked none), s₀) := by
    rw [LoadStage.run_next_begun, LoadStage.look, if_pos trusted, Act.run_readShared_nothing tier rfl]
  obtain ⟨s₁, anew, after⟩ := Act.run_loadAnew (s := s₀) (registry ▸ Registry.isSound_builtin) (settings ▸ lazy) trusted
    (registry ▸ built)
  have loaded : ((LoadStage.looked none).next d t).run s₀ = ((none, .loaded false (.ok (s₀.handle d b))), s₁) := by
    have fromNothing : Act.loadFrom d none = Act.loadAnew d := by simp only [Act.loadFrom, trusted, ↓reduceIte]
    rw [LoadStage.run_next_looked, fromNothing, anew]
    rfl
  have stays : (s₁.gateway.cache.finish t (.loaded (s₀.handle d b))).1 = true := by
    rw [after.cache, cache]
    exact Cache.kept_finish rfl (Cache.generationOf_begin ..) _
  have kept : ((LoadStage.loaded false (.ok (s₀.handle d b))).next d t).run s₁ =
      ((some (.step (.ended t (.loaded (s₀.handle d b)))), .kept (s₀.handle d b)),
        s₁.withCache (s₁.gateway.cache.finish t (.loaded (s₀.handle d b))).2) := by
    have trusted : (s₀.handle d b).tier.isShareable = true := trusted
    rw [LoadStage.run_next_ok, stays, trusted]
    rfl
  refine ⟨s₀.handle d b, (Snapshot.ofTrusted d b.1).encode, ?_⟩
  -- from here on, what is done does not depend on what the loader came to
  simp only [run, lateTurns, List.foldl, requested, turn_load_zero looked, turn_load_zero loaded, turn_load_zero kept]
  exact ⟨_, _, rfl⟩

def momentum : Descriptor := ⟨"momentum", 1, .predefined, "system"⟩

theorem exists_build_momentum : ∃ b, Registry.builtin.build momentum.identity momentum.payload.params = .ok b :=
  exists_of_isOk (by decide +kernel)

/-! ### Every run -/

theorem Called.deleted (called : w.Called) (past : w.past = after ++ .dropped i pair :: before)
    (returned : .returned i pair ∈ w.past) : .deleted i pair ∈ after := by
  have deeds := called i
  have own : .returned i pair ∈ RunningCall.deeds i w.calls[i]? := deeds ▸ List.mem_filter.2 ⟨returned, decide_eq_true rfl⟩
  have dropped : (Deed.dropped i pair :: before).filter (·.call? = some i) = .dropped i pair :: before.filter (·.call? = some i) :=
    List.filter_cons_of_pos (decide_eq_true rfl)
  rw [RunningCall.deeds_of_returned own, past, List.filter_append, dropped] at deeds
  -- what was done after the entries were dropped begins with the other two
  rcases h : after.filter (·.call? = some i) with _ | ⟨a, _ | ⟨b, rest⟩⟩ <;> rw [h] at deeds
  · cases (List.cons.inj deeds).1
  · cases (List.cons.inj (List.cons.inj deeds).2).1
  · have second : b = .deleted i pair := (List.cons.inj (List.cons.inj deeds).2).1
    refine List.mem_of_mem_filter (p := (·.call? = some i)) ?_
    rw [h, second]
    exact List.mem_cons_of_mem _ (List.mem_cons_self ..)

/-- A load has put its snapshot for a pair after an invalidation had deleted what there was, and nothing was done for the pair
since. -/
def PutLate (t : Ticket) (i : Nat) (pair : Pair) (after : List Deed) : Prop :=
  ∃ later payload earlier, after = later ++ .put t pair payload :: earlier ∧ .deleted i pair ∈ earlier ∧
    ∀ deed ∈ later, deed.leaves? pair = none

/-- Whether the snapshot of a load that has begun before an invalidation is in the shared tier once the invalidation has returned: just
if the load had left its entry before, and has put its snapshot late. -/
theorem holds_run_iff (config : Config) (entries : List (String × ByteArray)) (turns : List Turn)
    (past : ((start config entries).run turns).past = after ++ .dropped i pair :: before)
    (returned : .returned i pair ∈ ((start config entries).run turns).past) (began : t ∈ begun (steps before)) :
    ((start config entries).run turns).Holds pair t ↔ t.key.pair = pair ∧ Kept t before ∧ PutLate t i pair after := by
  have sound := sound_run_start config entries turns
  generalize (start config entries).run turns = w at sound past returned ⊢
  have deleted := sound.called.deleted past returned
  have distinct : (begun (steps w.past)).Nodup := .of_map _ sound.loaded.ran.recorded.ids
  rw [sound.tiered.holds_iff]
  constructor
  · rintro ⟨payload, left⟩
    obtain ⟨later, earlier, put, untouched⟩ := left?_eq_some.1 left
    have notDeleted : .deleted i pair ∉ later := fun hd => by simpa [Deed.leaves?] using untouched _ hd
    obtain ⟨same, kept⟩ := sound.loaded.puts _ _ _ _ _ put
    obtain ⟨middle, rfl, rfl⟩ : ∃ middle, after = later ++ .put t pair payload :: middle ∧
        earlier = middle ++ .dropped i pair :: before := by
      rcases List.append_eq_append_iff.1 (past.symm.trans put) with ⟨rest, rfl, -⟩ | ⟨rest, rfl, eq⟩
      · exact absurd (List.mem_append_left _ deleted) notDeleted
      · rcases List.cons_eq_append_iff.1 eq with ⟨-, eq⟩ | ⟨middle, rfl, rfl⟩
        · cases eq
        · exact ⟨middle, rfl, rfl⟩
    refine ⟨same.symm, ?_, later, payload, middle, rfl, ?_, untouched⟩
    · refine kept_before kept same.symm began ?_
      refine distinct.sublist (begun_steps_sublist ?_)
      rw [put]
      exact (List.sublist_cons_self ..).trans (List.sublist_append_right ..)
    · rcases List.mem_append.1 deleted with early | _ | ⟨_, middle⟩
      · exact absurd early notDeleted
      · exact middle
  · rintro ⟨-, -, later, payload, earlier, rfl, -, untouched⟩
    refine ⟨payload, left?_eq_some.2 ⟨later, earlier ++ .dropped i pair :: before, ?_, untouched⟩⟩
    rw [past, List.append_assoc, List.cons_append]

/-- There, the load had left its entry before the invalidation and put its snapshot afterwards. -/
theorem holds_run_iff_late :
    let w := (start .standard []).run (lateTurns momentum)
    let pair := momentum.cacheKey.pair
    let t : Ticket := ⟨momentum.cacheKey, 0, 0⟩
    ∃ after before, w.past = after ++ .dropped 0 pair :: before ∧ .returned 0 pair ∈ w.past ∧ t ∈ begun (steps before) ∧
      (w.Holds pair t ↔ t.key.pair = pair ∧ Kept t before ∧ PutLate t 0 pair after) := by
  intro w pair t
  obtain ⟨b, built⟩ := exists_build_momentum
  obtain ⟨h, payload, s, calls, ran⟩ := run_lateTurns .standard rfl rfl built
  have past : w.past = [_, _, _, _] ++ .dropped 0 pair :: [_, _] := congrArg Traffic.past ran
  have returned : .returned 0 pair ∈ w.past := by
    rw [past]
    exact .tail _ (.tail _ (.head _))
  exact ⟨_, _, past, returned, List.mem_singleton_self _,
    holds_run_iff .standard [] (lateTurns momentum) past returned (List.mem_singleton_self _)⟩

/-- The invalidation of a built-in strategy has returned, its only load is over, and its snapshot is in the shared tier. -/
theorem not_forgotten :
    ¬∀ (config : Config) (entries : List (String × ByteArray)) (turns : List Turn) (i : Nat) (pair : Pair) (after before : List Deed),
      let w := (start config entries).run turns
      w.past = after ++ .dropped i pair :: before → .returned i pair ∈ w.past →
        (∀ x ∈ w.loads, x.ticket ∈ begun (steps before) → x.ticket.key.pair = pair → x.stage.IsOver) →
          ∀ t ∈ begun (steps before), ¬w.Holds pair t := by
  intro claim
  obtain ⟨b, built⟩ := exists_build_momentum
  obtain ⟨h, payload, s, calls, ran⟩ := run_lateTurns .standard rfl rfl built
  have sound := sound_run_start .standard [] (lateTurns momentum)
  refine claim .standard [] (lateTurns momentum) 0 momentum.cacheKey.pair [_, _, _, _] [_, _] (congrArg Traffic.past ran) ?_ ?_
    ⟨momentum.cacheKey, 0, 0⟩ (List.mem_singleton_self _) ?_
  · rw [ran]
    exact .tail _ (.tail _ (.head _))
  · rw [ran]
    rintro x (_ | ⟨_, ⟨⟩⟩) - -
    trivial
  · refine sound.tiered.holds_iff.2 ⟨payload, left?_eq_some.2 ⟨[_], _, congrArg Traffic.past ran, ?_⟩⟩
    rintro _ (_ | ⟨_, ⟨⟩⟩)
    rfl

end Traffic
end StrategyHost
