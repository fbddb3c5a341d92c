import StrategyHost.Proofs.Cache.Coalescing
import StrategyHost.Proofs.Gateway.Stages

/-!
# Loads and invalidations at the same time

A `Traffic` is a gateway at work with all its loads and invalidations, each at a stage of its own, and whoever has its turn takes its
next step (`Traffic.turn`). What was done so far tells how things stand: `Tiered` what the shared tier holds, `Called` what each
invalidation has done, and `Loaded` where each load is and that what it has put into the tier it had kept before.
-/

namespace StrategyHost
open Cache (Happening Ran begun unfinished holding Overtaken)

structure RunningLoad where
  descriptor : Descriptor
  ticket : Ticket
  stage : LoadStage

structure RunningCall where
  pair : Pair
  stage : CallStage

/-- A gateway with its loads and invalidations, and what was done, the last first. -/
structure Traffic where
  scene : Scene
  loads : List RunningLoad
  calls : List RunningCall
  past : List Deed

/-- What comes next: a request looks for its strategy, an invalidation is called for, the cache is shut down, or a load or an
invalidation that has begun takes a step. -/
inductive Turn where
  | request (d : Descriptor)
  | load (i : Nat)
  | invalidate (pair : Pair)
  | call (i : Nat)
  | shutdown

def steps (past : List Deed) : List (Happening Handle) := past.filterMap Deed.happening?

namespace Traffic

def start (config : Config) (entries : List (String × ByteArray)) : Traffic :=
  ⟨⟨.new config, ⟨some ⟨entries, false⟩, none, 0⟩, []⟩, [], [], []⟩

/-- What a turn changes. A request that hits, joins a load or finds the cache shut down does nothing more to cache and tier. -/
def turn (w : Traffic) : Turn → Traffic
  | .request d =>
    let (found, scene) := (Act.lookup d).run w.scene
    let looked : Happening Handle := .looked d.cacheKey found
    let loads := w.loads ++ looked.ticket?.toList.map fun t => ⟨d, t, .begun⟩
    { w with scene, loads, past := .step looked :: w.past }
  | .load i =>
    match w.loads[i]? with
    | none => w
    | some x =>
      let ((deed?, stage), scene) := (x.stage.next x.descriptor x.ticket).run w.scene
      { w with scene, loads := w.loads.set i { x with stage }, past := deed?.toList ++ w.past }
  | .invalidate pair => { w with calls := w.calls ++ [⟨pair, .due⟩] }
  | .call i =>
    match w.calls[i]? with
    | none => w
    | some x =>
      let ((deed?, stage), scene) := (x.stage.next i x.pair).run w.scene
      { w with scene, calls := w.calls.set i { x with stage }, past := deed?.toList ++ w.past }
  | .shutdown => { w with scene := (Act.shutdown.run w.scene).2, past := .step .closed :: w.past }

def run (w : Traffic) (turns : List Turn) : Traffic := turns.foldl turn w

variable {w : Traffic} {i : Nat}

theorem turn_load_none (none : w.loads[i]? = none) : w.turn (.load i) = w := by
  rw [turn, none]

theorem turn_load {x : RunningLoad} (found : w.loads[i]? = some x) :
    w.turn (.load i) =
      let ran := (x.stage.next x.descriptor x.ticket).run w.scene
      { w with scene := ran.2, loads := w.loads.set i { x with stage := ran.1.2 }, past := ran.1.1.toList ++ w.past } := by
  rw [turn, found]
  rfl

theorem turn_call_none (none : w.calls[i]? = none) : w.turn (.call i) = w := by
  rw [turn, none]

theorem turn_call {x : RunningCall} (found : w.calls[i]? = some x) :
    w.turn (.call i) =
      let ran := (x.stage.next i x.pair).run w.scene
      { w with scene := ran.2, calls := w.calls.set i { x with stage := ran.1.2 }, past := ran.1.1.toList ++ w.past } := by
  rw [turn, found]
  rfl

theorem after_turn (w : Traffic) (t : Turn) :
    ∃ deed?, w.scene.After deed? (w.turn t).scene ∧ (w.turn t).past = deed?.toList ++ w.past := by
  have still : w.scene.After none w.scene := .none_of_eq rfl rfl
  cases t with
  | request d => exact ⟨some (.step (.looked d.cacheKey _)), .step .., rfl⟩
  | load i =>
    cases found : w.loads[i]? with
    | none =>
      rw [turn_load_none found]
      exact ⟨none, still, rfl⟩
    | some x =>
      rw [turn_load found]
      exact ⟨_, x.stage.after_next .., rfl⟩
  | invalidate pair => exact ⟨none, still, rfl⟩
  | call i =>
    cases found : w.calls[i]? with
    | none =>
      rw [turn_call_none found]
      exact ⟨none, still, rfl⟩
    | some x =>
      rw [turn_call found]
      exact ⟨_, x.stage.after_next .., rfl⟩
  | shutdown => exact ⟨some (.step .closed), .step .., rfl⟩

end Traffic

/-! ### The shared tier -/

/-- What is in the shared tier for a pair afterwards, and who has put it there, if the deed is about the tier and the pair. -/
def Deed.leaves? (pair : Pair) : Deed → Option (Option (Ticket × ByteArray))
  | put t p payload => if p = pair then some (some (t, payload)) else none
  | deleted _ p => if p = pair then some none else none
  | _ => none

def left? (pair : Pair) (past : List Deed) : Option (Option (Ticket × ByteArray)) := past.findSome? (·.leaves? pair)

theorem Deed.get_tierAfter {tier : SharedTier} (reached : tier.offline = false) (deed : Deed) :
    (tierAfter (some deed) tier).offline = false ∧ ∀ pair : Pair, (tierAfter (some deed) tier).get pair.1 pair.2 =
      (deed.leaves? pair).elim (tier.get pair.1 pair.2) fun l => .ok (l.map (·.2)) := by
  cases deed with
  | put t p payload =>
    obtain ⟨tier', put, reached', own, others⟩ := SharedTier.put_spec reached p payload
    simp only [tierAfter, put, leaves?]
    refine ⟨reached', fun pair => ?_⟩
    split
    next same => exact same ▸ own
    next other => exact others pair (Ne.symm other)
  | deleted call p =>
    obtain ⟨tier', deleted, reached', own, others⟩ := SharedTier.delete_spec reached p
    simp only [tierAfter, deleted, leaves?]
    refine ⟨reached', fun pair => ?_⟩
    split
    next same => exact same ▸ own
    next other => exact others pair (Ne.symm other)
  | _ => exact ⟨reached, fun _ => rfl⟩

namespace Traffic
variable {w w' : Traffic} {deed? : Option Deed}

/-- The shared tier can be reached and holds what was left in it. -/
def Tiered (w : Traffic) : Prop :=
  ∃ tier, w.scene.world.tier? = some tier ∧ tier.offline = false ∧
    ∀ pair l, left? pair w.past = some l → tier.get pair.1 pair.2 = .ok (l.map (·.2))

theorem tiered_start (config : Config) (entries : List (String × ByteArray)) : (start config entries).Tiered :=
  ⟨_, rfl, rfl, nofun⟩

theorem Tiered.after (tiered : w.Tiered) (after : w.scene.After deed? w'.scene) (past : w'.past = deed?.toList ++ w.past) :
    w'.Tiered := by
  obtain ⟨tier, held, reached, left⟩ := tiered
  have held' : w'.scene.world.tier? = some (Deed.tierAfter deed? tier) := by
    rw [after.tier, held]
    rfl
  cases deed? with
  | none =>
    have past : w'.past = w.past := past
    exact ⟨tier, held', reached, past ▸ left⟩
  | some deed =>
    obtain ⟨reached', get⟩ := deed.get_tierAfter reached
    refine ⟨_, held', reached', fun pair l h => ?_⟩
    rw [past, left?, Option.toList_some, List.singleton_append, List.findSome?_cons] at h
    rw [get]
    -- what the deed leaves for the pair hides what was left before
    cases leaves : deed.leaves? pair with
    | none =>
      rw [leaves] at h
      exact left pair l h
    | some l' =>
      rw [leaves] at h
      cases h
      rfl

end Traffic

/-! ### Invalidations -/

def Deed.call? : Deed → Option Nat
  | dropped call _ | deleted call _ | returned call _ => some call
  | _ => none

/-- What an invalidation has done when it has come so far. -/
def CallStage.deeds (call : Nat) (pair : Pair) : CallStage → List Deed
  | due => []
  | dropped _ => [.dropped call pair]
  | deleted _ => [.deleted call pair, .dropped call pair]
  | returned => [.returned call pair, .deleted call pair, .dropped call pair]

/-- What an invalidation has done, if there is one of this number. -/
def RunningCall.deeds (call : Nat) (x? : Option RunningCall) : List Deed := x?.elim [] fun x => x.stage.deeds call x.pair

theorem RunningCall.deeds_of_returned {call : Nat} {pair : Pair} {x? : Option RunningCall}
    (returned : .returned call pair ∈ deeds call x?) :
    deeds call x? = [.returned call pair, .deleted call pair, .dropped call pair] := by
  cases x? with
  | none => cases returned
  | some x =>
    obtain ⟨p, stage⟩ := x
    cases stage with
    | returned =>
      have same : pair = p := by simpa [deeds, CallStage.deeds] using returned
      rw [same]
      rfl
    | _ => simp [deeds, CallStage.deeds] at returned

theorem CallStage.deeds_next (call : Nat) (pair : Pair) (stage : CallStage) (s : Scene) :
    (((stage.next call pair).run s).1.2).deeds call pair = ((stage.next call pair).run s).1.1.toList ++ stage.deeds call pair := by
  cases stage <;> rfl

theorem CallStage.call?_next (call : Nat) (pair : Pair) (stage : CallStage) (s : Scene) :
    ∀ deed ∈ ((stage.next call pair).run s).1.1, deed.call? = some call := by
  cases stage <;> rintro _ ⟨⟩ <;> rfl

theorem LoadStage.call?_next (d : Descriptor) (t : Ticket) (stage : LoadStage) (s : Scene) :
    ∀ deed ∈ ((stage.next d t).run s).1.1, deed.call? = none := by
  cases stage with
  | loaded restored result => cases result <;> rintro _ ⟨⟩ <;> rfl
  | kept h =>
    intro deed put
    obtain ⟨snapshot, -, rfl⟩ := Option.map_eq_some_iff.1 put
    rfl
  | _ => rintro _ ⟨⟩ <;> rfl

namespace Traffic
variable {w w' : Traffic}

/-- Each invalidation has done what its stage tells, in this order. -/
def Called (w : Traffic) : Prop := ∀ i, w.past.filter (·.call? = some i) = RunningCall.deeds i w.calls[i]?

theorem called_start (config : Config) (entries : List (String × ByteArray)) : (start config entries).Called := fun _ => rfl

theorem Called.quiet (called : w.Called) (deed? : Option Deed) (calls : w'.calls = w.calls)
    (past : w'.past = deed?.toList ++ w.past) (quiet : ∀ deed ∈ deed?, deed.call? = none) : w'.Called := by
  intro i
  have none : deed?.toList.filter (·.call? = some i) = [] := by
    refine List.filter_eq_nil_iff.2 fun deed hd => ?_
    simp [quiet deed (Option.mem_toList.1 hd)]
  rw [past, List.filter_append, none, calls]
  exact called i

theorem Called.invalidate (called : w.Called) (pair : Pair) : (w.turn (.invalidate pair)).Called := by
  intro i
  refine (called i).trans ?_
  show _ = RunningCall.deeds i (w.calls ++ [⟨pair, .due⟩])[i]?
  rcases Nat.lt_trichotomy i w.calls.length with lt | rfl | gt
  · rw [List.getElem?_append_left lt]
  · rw [List.getElem?_eq_none (Nat.le_refl _), List.getElem?_concat_length]
    rfl
  · rw [List.getElem?_eq_none (Nat.le_of_lt gt), List.getElem?_eq_none]
    rw [List.length_append, List.length_singleton]
    exact gt

theorem Called.call (called : w.Called) (i : Nat) : (w.turn (.call i)).Called := by
  cases found : w.calls[i]? with
  | none => rwa [turn_call_none found]
  | some x =>
    have own := x.stage.call?_next i x.pair w.scene
    have deeds := x.stage.deeds_next i x.pair w.scene
    rw [turn_call found]
    generalize (x.stage.next i x.pair).run w.scene = ran at own deeds
    obtain ⟨⟨deed?, stage⟩, s⟩ := ran
    intro j
    rw [List.filter_append, List.getElem?_set]
    -- the deed belongs to this invalidation and to no other
    by_cases same : i = j
    · subst same
      have all : deed?.toList.filter (·.call? = some i) = deed?.toList :=
        List.filter_eq_self.2 fun deed hd => decide_eq_true (own deed (Option.mem_toList.1 hd))
      rw [all, called i, found, if_pos rfl, if_pos (List.getElem?_eq_some_iff.1 found).1]
      exact deeds.symm
    · have none : deed?.toList.filter (·.call? = some j) = [] := by
        refine List.filter_eq_nil_iff.2 fun deed hd => ?_
        simp [own deed (Option.mem_toList.1 hd), same]
      rw [none, if_neg same]
      exact called j

theorem Called.turn (called : w.Called) (t : Turn) : (w.turn t).Called := by
  cases t with
  | request d => exact called.quiet (some _) rfl rfl (by rintro _ ⟨⟩; rfl)
  | load i =>
    cases found : w.loads[i]? with
    | none => rwa [turn_load_none found]
    | some x =>
      rw [turn_load found]
      exact called.quiet _ rfl rfl (x.stage.call?_next x.descriptor x.ticket w.scene)
  | invalidate pair => exact called.invalidate pair
  | call i => exact called.call i
  | shutdown => exact called.quiet (some _) rfl rfl (by rintro _ ⟨⟩; rfl)

end Traffic

/-! ### Loads -/

section
variable {past : List Deed} {deed? : Option Deed} {t : Ticket}

theorem steps_append (deed? : Option Deed) (past : List Deed) :
    steps (deed?.toList ++ past) = (deed?.bind Deed.happening?).toList ++ steps past := by
  rw [steps, List.filterMap_append]
  cases deed? with
  | none => rfl
  | some deed =>
    rw [Option.toList_some, List.filterMap_cons, Option.bind_some]
    cases deed.happening? <;> rfl

def Kept (t : Ticket) (past : List Deed) : Prop :=
  ∃ h later earlier, past = later ++ .step (.ended t (.loaded h)) :: earlier ∧ ¬Overtaken t (steps earlier)

theorem Kept.append (kept : Kept t past) (later : List Deed) : Kept t (later ++ past) := by
  obtain ⟨h, between, earlier, rfl, current⟩ := kept
  exact ⟨h, later ++ between, earlier, (List.append_assoc ..).symm, current⟩

/-- What was done tells where a load is. -/
def LoadStage.Stands (t : Ticket) (past : List Deed) : LoadStage → Prop
  | begun | looked _ => t ∈ unfinished (steps past)
  | loaded _ result => t ∈ unfinished (steps past) ∧ ∀ h, result = .ok h → h.key = t.key
  | kept h => t ∉ unfinished (steps past) ∧ t ∈ holding (steps past) ∧ h.key = t.key ∧ Kept t past
  | finished => t ∉ unfinished (steps past) ∧ t ∈ holding (steps past)
  | released => True

theorem LoadStage.Stands.other {stage : LoadStage} (stands : stage.Stands t past) (deed? : Option Deed)
    (other : ∀ h ∈ deed?.bind Deed.happening?, h.of? ≠ some t) : stage.Stands t (deed?.toList ++ past) := by
  obtain ⟨running, holds⟩ : (t ∈ unfinished (steps (deed?.toList ++ past)) ↔ t ∈ unfinished (steps past)) ∧
      (t ∈ holding (steps (deed?.toList ++ past)) ↔ t ∈ holding (steps past)) := by
    rw [steps_append]
    cases h : deed?.bind Deed.happening? with
    | none => exact ⟨.rfl, .rfl⟩
    | some h' => exact ⟨Cache.mem_unfinished_cons (other h' h), Cache.mem_holding_cons (other h' h)⟩
  cases stage with
  | kept h =>
    obtain ⟨ended, holding, key, kept⟩ := stands
    exact ⟨running.not.2 ended, holds.2 holding, key, kept.append _⟩
  | released => trivial
  | _ => simpa only [Stands, running, holds] using stands

end

section
variable {d : Descriptor} {past : List Deed} {deed? : Option Deed} {t : Ticket} {stage : LoadStage} {s s' : Scene}

theorem ran_after (ran : Ran s.gateway.cache (steps past)) (after : s.After deed? s')
    (allowed : ∀ h ∈ deed?.bind Deed.happening?, h.Allowed s.gateway.cache (steps past)) :
    Ran s'.gateway.cache (steps (deed?.toList ++ past)) := by
  obtain ⟨sharedHits, invalidations, cache⟩ := after.cache
  rw [cache, steps_append, Deed.cacheAfter]
  refine .count sharedHits invalidations ?_
  cases h : deed?.bind Deed.happening? with
  | none => exact ran
  | some h' => exact ran.move (allowed h' h)

namespace LoadStage

theorem allowed_next (stands : stage.Stands t past) :
    ∀ h ∈ ((stage.next d t).run s).1.1.bind Deed.happening?, h.Allowed s.gateway.cache (steps past) ∧ h.of? = some t := by
  cases stage with
  | loaded restored result => cases result <;> rintro _ ⟨⟩ <;> exact ⟨stands.1, rfl⟩
  | kept h =>
    rw [run_next_kept]
    cases Act.snapshotOf? h <;> rintro _ ⟨⟩
  | finished =>
    rintro _ ⟨⟩
    exact ⟨⟨stands.2, stands.1⟩, rfl⟩
  | _ => rintro _ ⟨⟩

theorem stands_next (ran : Ran s.gateway.cache (steps past)) (key : t.key = d.cacheKey) (stands : stage.Stands t past) :
    ((stage.next d t).run s).1.2.Stands t (((stage.next d t).run s).1.1.toList ++ past) := by
  have ended (load : LoadEnd Handle) (running : t ∈ unfinished (steps past)) :
      t ∉ unfinished (.ended t load :: steps past) ∧ t ∈ holding (.ended t load :: steps past) :=
    ⟨ran.recorded.nodup_unfinished.not_mem_erase, ran.recorded.slot t running⟩
  cases stage with
  | begun => exact stands
  | looked offered? =>
    refine ⟨stands, fun h result => ?_⟩
    rw [key]
    exact (Act.spares_loadFrom d offered? s).2 h result
  | loaded restored result =>
    obtain ⟨running, keyed⟩ := stands
    cases result with
    | error e => exact ended _ running
    | ok h =>
      obtain ⟨out, holding⟩ := ended (.loaded h) running
      rw [run_next_ok]
      dsimp only
      split
      next stays =>
        -- the generation was checked, so nothing has overtaken the load
        rw [Bool.and_eq_true, Bool.and_eq_true] at stays
        exact ⟨out, holding, keyed h rfl, h, [], past, rfl, (ran.kept_iff running h).1 stays.1.1⟩
      next => exact ⟨out, holding⟩
  | kept h =>
    obtain ⟨out, holding, -, -⟩ := stands
    rw [run_next_kept]
    cases Act.snapshotOf? h <;> exact ⟨out, holding⟩
  | finished => trivial
  | released => trivial

/-- A load puts its snapshot under its own pair, after it has left its entry. -/
theorem put_next (stands : stage.Stands t past) {u : Ticket} {pair : Pair} {payload : ByteArray}
    (put : .put u pair payload ∈ ((stage.next d t).run s).1.1) : pair = u.key.pair ∧ Kept u past := by
  cases stage with
  | loaded restored result => cases result <;> cases put
  | kept h =>
    obtain ⟨-, -, key, kept⟩ := stands
    obtain ⟨snapshot, -, same⟩ := Option.map_eq_some_iff.1 put
    cases same
    exact ⟨congrArg CacheKey.pair key, kept⟩
  | _ => cases put

end LoadStage

end

structure RunningLoad.Stands (x : RunningLoad) (past : List Deed) : Prop where
  key : x.ticket.key = x.descriptor.cacheKey
  began : x.ticket ∈ begun (steps past)
  stage : x.stage.Stands x.ticket past

namespace Traffic
variable {w w' : Traffic}

/-- Each load is where its stage tells. What a load has put into the shared tier is under its own pair, and the load had left its entry
before. -/
structure Loaded (w : Traffic) : Prop where
  ran : Ran w.scene.gateway.cache (steps w.past)
  tickets : (w.loads.map (·.ticket)).Nodup
  loads : ∀ x ∈ w.loads, x.Stands w.past
  puts : ∀ later t pair payload earlier, w.past = later ++ .put t pair payload :: earlier → pair = t.key.pair ∧ Kept t earlier

theorem loaded_start (config : Config) (entries : List (String × ByteArray)) : (start config entries).Loaded :=
  ⟨.new config.cache, .nil, List.forall_mem_nil _, fun later _ _ _ _ past => absurd past (by cases later <;> nofun)⟩

namespace Loaded
variable {deed? : Option Deed}

theorem puts_append (loaded : w.Loaded) (deed? : Option Deed)
    (put : ∀ t pair payload, .put t pair payload ∈ deed? → pair = t.key.pair ∧ Kept t w.past) :
    ∀ later t pair payload earlier, deed?.toList ++ w.past = later ++ .put t pair payload :: earlier →
      pair = t.key.pair ∧ Kept t earlier := by
  intro later t pair payload earlier past
  cases deed? with
  | none => exact loaded.puts later t pair payload earlier past
  | some deed =>
    rcases List.cons_eq_append_iff.1 past with ⟨-, past⟩ | ⟨later, -, past⟩
    · obtain ⟨rfl, rfl⟩ := List.cons.inj past
      exact put t pair payload rfl
    · exact loaded.puts later t pair payload earlier past

theorem quiet (loaded : w.Loaded) (deed? : Option Deed) (loads : w'.loads = w.loads) (past : w'.past = deed?.toList ++ w.past)
    (after : w.scene.After deed? w'.scene)
    (allowed : ∀ h ∈ deed?.bind Deed.happening?, h.Allowed w.scene.gateway.cache (steps w.past) ∧ h.of? = none)
    (put : ∀ t pair payload, .put t pair payload ∉ deed?) : w'.Loaded := by
  refine ⟨?_, ?_, ?_, ?_⟩
  · rw [past]
    exact ran_after loaded.ran after fun h hh => (allowed h hh).1
  · rw [loads]
    exact loaded.tickets
  · rw [loads, past]
    intro x hx
    obtain ⟨key, began, stage⟩ := loaded.loads x hx
    refine ⟨key, ?_, stage.other _ fun h hh => ?_⟩
    · rw [steps_append, Cache.begun_append]
      exact List.mem_append_right _ began
    · rw [(allowed h hh).2]
      exact (Option.some_ne_none _).symm
  · rw [past]
    exact loaded.puts_append _ fun t pair payload hp => absurd hp (put t pair payload)

theorem request (loaded : w.Loaded) (d : Descriptor) : (w.turn (.request d)).Loaded := by
  obtain ⟨found, eq⟩ : ∃ found, (w.scene.gateway.cache.lookup d.cacheKey).1 = found := ⟨_, rfl⟩
  have after : w.scene.After (some (.step (.looked d.cacheKey found))) (w.turn (.request d)).scene := .step ..
  have past : (w.turn (.request d)).past = .step (.looked d.cacheKey found) :: w.past := eq ▸ rfl
  have loads : (w.turn (.request d)).loads =
      w.loads ++ (Happening.looked d.cacheKey found).ticket?.toList.map fun t => ⟨d, t, .begun⟩ := eq ▸ rfl
  cases found with
  | began t =>
    obtain ⟨key, new⟩ := loaded.ran.recorded.of_began eq
    refine ⟨?_, ?_, ?_, ?_⟩
    · rw [past]
      exact ran_after loaded.ran after (by rintro _ ⟨⟩; exact eq.symm)
    · rw [loads, List.map_append]
      refine List.nodup_append.2 ⟨loaded.tickets, List.nodup_singleton _, ?_⟩
      -- none has begun under the new number
      rintro _ old _ (_ | ⟨_, ⟨⟩⟩) rfl
      obtain ⟨x, hx, same⟩ := List.mem_map.1 old
      exact new (same ▸ (loaded.loads x hx).began)
    · rw [loads, past]
      intro x hx
      rcases List.mem_append.1 hx with old | last
      · obtain ⟨key, began, stage⟩ := loaded.loads x old
        refine ⟨key, List.mem_cons_of_mem _ began, stage.other (some (.step (.looked d.cacheKey (.began t)))) ?_⟩
        rintro _ ⟨⟩ ⟨⟩
        exact new began
      · cases List.mem_singleton.1 last
        exact ⟨key, List.mem_cons_self .., List.mem_cons_self ..⟩
    · rw [past]
      exact loaded.puts_append (some _) nofun
  | _ =>
    refine loaded.quiet (some _) (loads.trans (List.append_nil _)) past after ?_ fun _ _ _ put => ?_
    · rintro _ ⟨⟩
      exact ⟨eq.symm, rfl⟩
    · cases put

theorem tickets_set {loads : List RunningLoad} {i : Nat} {x : RunningLoad} (found : loads[i]? = some x) (stage : LoadStage) :
    (loads.set i { x with stage }).map (·.ticket) = loads.map (·.ticket) := by
  have at_i : (loads.map (·.ticket))[i]? = some x.ticket := by rw [List.getElem?_map, found, Option.map_some]
  obtain ⟨lt, same⟩ := List.getElem?_eq_some_iff.1 at_i
  rw [List.map_set]
  exact same ▸ List.set_getElem_self lt

theorem mem_set {loads : List RunningLoad} {i : Nat} {x y z : RunningLoad} (tickets : (loads.map (·.ticket)).Nodup)
    (found : loads[i]? = some x) (hy : y ∈ loads.set i z) : y = z ∨ y ∈ loads ∧ x.ticket ≠ y.ticket := by
  obtain ⟨j, hj⟩ := List.mem_iff_getElem?.1 hy
  obtain ⟨lt, -⟩ := List.getElem?_eq_some_iff.1 found
  rw [List.getElem?_set] at hj
  split at hj
  next => exact .inl (by simpa [lt] using hj.symm)
  next other =>
    refine .inr ⟨List.mem_of_getElem? hj, fun same => other ?_⟩
    refine (List.getElem?_inj (by rwa [List.length_map]) tickets).1 ?_
    rw [List.getElem?_map, List.getElem?_map, found, hj]
    exact congrArg some same

theorem load (loaded : w.Loaded) (i : Nat) : (w.turn (.load i)).Loaded := by
  cases found : w.loads[i]? with
  | none => rwa [turn_load_none found]
  | some x =>
    have stands := loaded.loads x (List.mem_of_getElem? found)
    have allowed := LoadStage.allowed_next (d := x.descriptor) (s := w.scene) stands.stage
    have begun {t : Ticket} (began : t ∈ begun (steps w.past)) (deed? : Option Deed) :
        t ∈ Cache.begun (steps (deed?.toList ++ w.past)) := by
      rw [steps_append, Cache.begun_append]
      exact List.mem_append_right _ began
    rw [turn_load found]
    refine ⟨?_, ?_, ?_, ?_⟩
    · exact ran_after loaded.ran (LoadStage.after_next ..) fun h hh => (allowed h hh).1
    · rw [tickets_set found]
      exact loaded.tickets
    · intro y hy
      rcases mem_set loaded.tickets found hy with rfl | ⟨old, other⟩
      · exact ⟨stands.key, begun stands.began _, LoadStage.stands_next loaded.ran stands.key stands.stage⟩
      · -- another load has another ticket, so the step is not its own
        obtain ⟨key, began, stage⟩ := loaded.loads y old
        refine ⟨key, begun began _, stage.other _ fun h hh => ?_⟩
        rw [(allowed h hh).2]
        exact fun same => other (Option.some.inj same)
    · exact loaded.puts_append _ fun t pair payload put => LoadStage.put_next stands.stage put

theorem turn (loaded : w.Loaded) (t : Turn) : (w.turn t).Loaded := by
  cases t with
  | request d => exact loaded.request d
  | load i => exact loaded.load i
  | invalidate pair =>
    exact loaded.quiet none rfl rfl (.none_of_eq rfl rfl) (fun _ none => absurd none (Option.not_mem_none _))
      fun _ _ _ => Option.not_mem_none _
  | call i =>
    cases found : w.calls[i]? with
    | none => rwa [turn_call_none found]
    | some x =>
      rw [turn_call found]
      refine loaded.quiet _ rfl rfl (x.stage.after_next ..) ?_ fun t pair payload put => ?_
      · cases x.stage <;> rintro _ ⟨⟩
        exact ⟨trivial, rfl⟩
      · cases x.stage.call?_next i x.pair w.scene _ put
  | shutdown =>
    refine loaded.quiet (some (.step .closed)) rfl rfl (.step ..) ?_ fun _ _ _ put => ?_
    · rintro _ ⟨⟩
      exact ⟨trivial, rfl⟩
    · cases put

end Loaded

/-- What was done so far tells how things stand. -/
structure Sound (w : Traffic) : Prop where
  tiered : w.Tiered
  called : w.Called
  loaded : w.Loaded

theorem Sound.turn (sound : w.Sound) (t : Turn) : (w.turn t).Sound := by
  obtain ⟨deed?, after, past⟩ := after_turn w t
  exact ⟨sound.tiered.after after past, sound.called.turn t, sound.loaded.turn t⟩

theorem Sound.run (sound : w.Sound) (turns : List Turn) : (w.run turns).Sound := by
  induction turns generalizing w with
  | nil => exact sound
  | cons t turns ih => exact ih (sound.turn t)

theorem sound_run_start (config : Config) (entries : List (String × ByteArray)) (turns : List Turn) :
    ((start config entries).run turns).Sound :=
  Sound.run ⟨tiered_start config entries, called_start config entries, loaded_start config entries⟩ turns

end Traffic
end StrategyHost
