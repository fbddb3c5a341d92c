import StrategyHost.Proofs.Bound
import StrategyHost.Proofs.Gateway.Shared
import StrategyHost.Proofs.Tier

/-! # What one gateway shares with another

A gateway that creates a trusted strategy leaves a snapshot in the shared tier, and another one that asks for the same strategy
gets it back from there: from the snapshot, not from the descriptor, and the same in every respect (`Act.create_agrees`). -/

namespace StrategyHost
variable {α : Type}

/-! ### The cache -/

namespace Cache
variable {c : Cache α} {t : Ticket} {key : CacheKey}

theorem generationOf_begin (c : Cache α) (key : CacheKey) :
    (c.begin key).2.generationOf key.pair = (c.begin key).1.generation := by
  show (c.hold key.pair).generationOf key.pair = c.generationOf key.pair
  -- a pair without a generation counts as having the first one, and that is the one it gets
  unfold hold
  cases found : c.generation? key.pair with
  | none =>
    have unkept : c.generations.find? (·.pair = key.pair) = none := found
    simp [generationOf, generation?, unkept]
  | some g =>
    have kept : c.generations.find? (·.pair = key.pair) = some g := found
    have pair : g.pair = key.pair := by simpa using List.find?_some kept
    have same (g : Generation) : (if g.pair = key.pair then { g with running := g.running + 1 } else g).pair = g.pair := by
      split <;> rfl
    simp only [generationOf, generation?, updateGeneration, List.find?_map, Function.comp_def, same, kept, Option.map_some,
      if_pos pair]

theorem kept_finish (opened : c.closed = false) (current : c.generationOf t.key.pair = t.generation) (a : α) :
    (c.finish t (.loaded a)).1 = true := by
  have current : ¬ ((c.settle t).closed || decide ((c.settle t).generationOf t.key.pair ≠ t.generation)) := by
    rw [show (c.settle t).closed = false from opened, show (c.settle t).generationOf t.key.pair = t.generation from current]
    simp
  unfold finish
  dsimp only
  rw [if_neg (by simpa using current)]

theorem sharedHits_finish (c : Cache α) (t : Ticket) (a : α) : (c.finish t (.loaded a)).2.sharedHits = c.sharedHits := by
  unfold finish insert
  dsimp only
  split
  · rfl
  · split <;> rfl

end Cache

/-! ### Loads without trial runs -/

def Scene.withCache (s : Scene) (cache : Cache Handle) : Scene := { s with gateway := { s.gateway with cache := cache } }

structure Scene.AfterLoad (s s' : Scene) : Prop where
  cache : s'.gateway.cache = s.gateway.cache
  loads : s'.gateway.loads = s.gateway.loads + 1
  tier : s'.world.tier? = s.world.tier?

namespace Act
variable {s : Scene} {d : Descriptor} {b : Bound × Strategy} {snapshot : Snapshot}

theorem run_runLoading_afterLoad (s : Scene) (d : Descriptor) (load : Loading Loaded) :
    ∃ s', (runLoading d load).run s = ((load.run.run ⟨.new d.cacheKey, s.gateway.sanitizer⟩).1, s') ∧ s.Keeps s' ∧
      s.AfterLoad s' :=
  ⟨_, rfl, ⟨rfl, rfl, rfl⟩, rfl, rfl, rfl⟩

theorem run_handOut (lazy : s.gateway.config.factory.eagerValidation = false) (d : Descriptor) (b : Bound × Strategy) :
    (handOut d (.trusted d b)).run s = (.ok (s.handle d b),
      { s with world := { s.world with nextInstance := s.world.nextInstance + 1 } }) := by
  obtain ⟨s₁, made, next⟩ : ∃ s₁, (handleOf d (.trusted d b)).run s = (s.handle d b, s₁) ∧
      s₁ = { s with world := { s.world with nextInstance := s.world.nextInstance + 1 } } := ⟨_, rfl, rfl⟩
  have asked : config.run s₁ = (s.gateway.config, s₁) := by
    rw [next]
    rfl
  simp only [handOut, run_bind, made, asked, lazy]
  rw [next]
  rfl

theorem run_handOut_runLoading {load : Loading Loaded} (lazy : s.gateway.config.factory.eagerValidation = false)
    (loads : (load.run.run ⟨.new d.cacheKey, s.gateway.sanitizer⟩).1 = .ok (.trusted d b)) :
    ∃ s₁ s', (runLoading d load).run s = (.ok (.trusted d b), s₁) ∧ (handOut d (.trusted d b)).run s₁ = (.ok (s.handle d b), s') ∧
      s.AfterLoad s' := by
  obtain ⟨s₁, loaded, keeps, after⟩ := run_runLoading_afterLoad s d load
  have handed := run_handOut (s := s₁) (keeps.config ▸ lazy) d b
  rw [loads] at loaded
  rw [keeps.handle_eq] at handed
  exact ⟨s₁, _, loaded, handed, after.cache, after.loads, after.tier⟩

theorem run_loadAnew (sound : s.gateway.registry.IsSound) (lazy : s.gateway.config.factory.eagerValidation = false)
    (trusted : d.tier.isShareable = true) (built : s.gateway.registry.build d.identity d.payload.params = .ok b) :
    ∃ s', (loadAnew d).run s = (.ok (s.handle d b), s') ∧ s.AfterLoad s' := by
  have loads := Loader.run_load (r := s.gateway.registry) (fun _ => sound) trusted s.gateway.sanitizer
  rw [built] at loads
  obtain ⟨s₁, s', loaded, handed, after⟩ := run_handOut_runLoading lazy loads
  refine ⟨s', ?_, after⟩
  simp only [loadAnew, run_bind, run_get, loaded, handed]

theorem run_loadFrom_restored (lazy : s.gateway.config.factory.eagerValidation = false) (trusted : d.tier.isShareable = true)
    (same : snapshot.contentHash = d.contentHash) (built : s.gateway.registry.build d.identity snapshot.params = .ok b) :
    ∃ s', (loadFrom d (some snapshot)).run s = (.ok (s.handle d b), s') ∧ s.AfterLoad s' := by
  have loads := Loader.run_restore (r := s.gateway.registry) same s.gateway.sanitizer
  rw [built] at loads
  obtain ⟨s₁, s', loaded, handed, after⟩ := run_handOut_runLoading lazy loads
  refine ⟨s', ?_, after⟩
  simp only [loadFrom, trusted, ↓reduceIte, run_bind, run_get, loaded, handed]

/-! ### The shared tier between two gateways -/

theorem run_readShared_offered {tier : SharedTier} {key : CacheKey} (held : s.world.tier? = some tier) (plain : snapshot.IsPlain)
    (found : tier.get key.identity key.version = .ok (some snapshot.encode)) (same : snapshot.contentHash = key.contentHash) :
    (readShared key).run s = (some snapshot, s.withCache s.gateway.cache.countSharedHit) := by
  simp only [readShared, run_bind, run_get, held, found, Snapshot.decode_encode plain, same, ↓reduceIte]
  rfl

theorem run_readShared_nothing {tier : SharedTier} {key : CacheKey} (held : s.world.tier? = some tier)
    (nothing : tier.get key.identity key.version = .ok none) : (readShared key).run s = (none, s) := by
  simp only [readShared, run_bind, run_get, held, nothing]
  rfl

theorem run_keep_new {t : Ticket} {h : Handle} {tier tier' : SharedTier} {snapshot : Snapshot}
    (kept : (s.gateway.cache.finish t (.loaded h)).1 = true) (trusted : h.tier.isShareable = true)
    (taken : snapshotOf? h = some snapshot) (held : s.world.tier? = some tier)
    (put : tier.put h.key.identity h.key.version snapshot.encode = .ok tier') :
    ((keep t false h).run s).2.world.tier? = some tier' := by
  have finished : (stepCache fun c => c.finish t (.loaded h)).run s =
      (true, s.withCache (s.gateway.cache.finish t (.loaded h)).2) := by
    rw [← kept]
    rfl
  simp only [keep, run_bind, finished, trusted, Bool.not_false, Bool.and_self, ↓reduceIte, writeShared, taken, changeShared,
    run_get, Scene.withCache, held, put]
  rfl

theorem run_keep_restored (t : Ticket) (h : Handle) :
    (keep t true h).run s = ((), s.withCache (s.gateway.cache.finish t (.loaded h)).2) := by
  have finished : (stepCache fun c => c.finish t (.loaded h)).run s =
      ((s.gateway.cache.finish t (.loaded h)).1, s.withCache (s.gateway.cache.finish t (.loaded h)).2) := rfl
  simp only [keep, run_bind, finished, Bool.not_true, Bool.and_false, Bool.false_eq_true, ↓reduceIte]
  rfl

end Act

def Snapshot.ofTrusted (d : Descriptor) (b : Bound) : Snapshot :=
  ⟨d.identity, d.version, d.contentHash, d.tier, b.toParams, .trusted d.tier d.contentHash⟩

/-- A gateway with the built-in strategies that is open, makes no trial runs and has nothing for a trusted descriptor. -/
structure Scene.Lacks (s : Scene) (d : Descriptor) : Prop where
  registry : s.gateway.registry = .builtin
  lazy : s.gateway.config.factory.eagerValidation = false
  opened : s.gateway.cache.closed = false
  misses : s.gateway.cache.Misses d.cacheKey

structure Scene.AfterBegin (s s' : Scene) (d : Descriptor) (t : Ticket) : Prop extends s.Keeps s' where
  key : t.key = d.cacheKey
  world : s'.world = s.world
  loads : s'.gateway.loads = s.gateway.loads
  opened : s'.gateway.cache.closed = false
  hits : s'.gateway.cache.sharedHits = s.gateway.cache.sharedHits
  current : s'.gateway.cache.generationOf t.key.pair = t.generation

namespace Act
variable {s : Scene} {d : Descriptor} {b : Bound × Strategy} {tier tier' : SharedTier}

theorem run_create_begin (lacks : s.Lacks d) : (create d).run s =
    (runLoad d (s.gateway.cache.begin d.cacheKey).1).run (s.withCache (s.gateway.cache.begin d.cacheKey).2) := by
  simp only [create, run_bind, run_lookup, lacks.misses.lookup, lacks.opened, Bool.false_eq_true, ↓reduceIte]
  rfl

theorem run_create_began (lacks : s.Lacks d) : ∃ s₁ t, (create d).run s = (runLoad d t).run s₁ ∧ s.AfterBegin s₁ d t := by
  have begun : s.AfterBegin (s.withCache (s.gateway.cache.begin d.cacheKey).2) d (s.gateway.cache.begin d.cacheKey).1 := {
    config := rfl, registry := rfl, nextInstance := rfl, key := rfl, world := rfl, loads := rfl
    opened := by rw [Scene.withCache, Cache.begin_snd, lacks.opened]
    hits := by rw [Scene.withCache, Cache.begin_snd]
    current := Cache.generationOf_begin .. }
  exact ⟨_, _, run_create_begin lacks, begun⟩

theorem run_create_new (lacks : s.Lacks d) (trusted : d.tier.isShareable = true)
    (built : Registry.builtin.build d.identity d.payload.params = .ok b) (held : s.world.tier? = some tier)
    (nothing : tier.get d.identity d.version = .ok none)
    (put : tier.put d.identity d.version (Snapshot.ofTrusted d b.1).encode = .ok tier') :
    ((create d).run s).1 = .ok (s.handle d b) ∧ ((create d).run s).2.world.tier? = some tier' := by
  obtain ⟨s₁, t, created, begun⟩ := run_create_began lacks
  have registry : s₁.gateway.registry = .builtin := begun.registry.trans lacks.registry
  obtain ⟨s₂, loaded, after⟩ := run_loadAnew (s := s₁) (d := d) (registry ▸ Registry.isSound_builtin) (begun.config ▸ lacks.lazy)
    trusted (registry ▸ built)
  have held : s₁.world.tier? = some tier := begun.world ▸ held
  have looked : (readShared t.key).run s₁ = (none, s₁) := run_readShared_nothing held (begun.key ▸ nothing)
  have fromNothing : loadFrom d none = loadAnew d := by simp only [loadFrom, trusted, ↓reduceIte]
  have written : ((keep t false (s₁.handle d b)).run s₂).2.world.tier? = some tier' :=
    run_keep_new (Cache.kept_finish (after.cache ▸ begun.opened) (after.cache ▸ begun.current) _) trusted rfl
      (after.tier.trans held) put
  rw [created]
  simp only [runLoad, trusted, ↓reduceIte, run_bind, looked, fromNothing, loaded, Option.isSome_none]
  exact ⟨congrArg Except.ok (begun.handle_eq b), written⟩

/-- A snapshot of the same content is taken up with one load, and counted. -/
theorem run_create_restored {snapshot : Snapshot} (lacks : s.Lacks d) (trusted : d.tier.isShareable = true)
    (held : s.world.tier? = some tier) (plain : snapshot.IsPlain)
    (found : tier.get d.identity d.version = .ok (some snapshot.encode)) (same : snapshot.contentHash = d.contentHash)
    (built : Registry.builtin.build d.identity snapshot.params = .ok b) :
    ((create d).run s).1 = .ok (s.handle d b) ∧
      ((create d).run s).2.gateway.cache.sharedHits = s.gateway.cache.sharedHits + 1 ∧
      ((create d).run s).2.gateway.loads = s.gateway.loads + 1 := by
  obtain ⟨s₁, t, created, begun⟩ := run_create_began lacks
  have looked : (readShared t.key).run s₁ = (some snapshot, s₁.withCache s₁.gateway.cache.countSharedHit) :=
    run_readShared_offered (begun.world ▸ held) plain (begun.key ▸ found) (begun.key ▸ same)
  have registry : (s₁.withCache s₁.gateway.cache.countSharedHit).gateway.registry = .builtin :=
    begun.registry.trans lacks.registry
  obtain ⟨s₂, loaded, after⟩ := run_loadFrom_restored (s := s₁.withCache s₁.gateway.cache.countSharedHit) (b := b)
    (begun.config ▸ lacks.lazy) trusted same (registry ▸ built)
  rw [created]
  simp only [runLoad, trusted, ↓reduceIte, run_bind, looked, loaded, Option.isSome_some, run_keep_restored]
  refine ⟨congrArg Except.ok (begun.handle_eq b), ?_, ?_⟩
  · refine (Cache.sharedHits_finish ..).trans ?_
    rw [after.cache, Scene.withCache, Cache.countSharedHit, begun.hits]
  · exact after.loads.trans (congrArg (· + 1) begun.loads)

end Act

/-- Two handles that differ in their numbers at most. They run the same strategy, which gives them its name. -/
structure Handle.Agrees (h h' : Handle) : Prop where
  key : h'.key = h.key
  tier : h'.tier = h.tier
  runnable : h'.runnable = h.runnable
  name : h'.runnable.name = h.runnable.name
  params : h'.params? = h.params?
  verdict : h'.verdict = h.verdict
  grant : h'.grant = h.grant

theorem Scene.agrees_handle {s s' : Scene} (config : s'.gateway.config = s.gateway.config) (d : Descriptor)
    (b : Bound × Strategy) : (s.handle d b).Agrees (s'.handle d b) :=
  ⟨rfl, rfl, rfl, rfl, rfl, rfl, by rw [Scene.handle, Scene.handle, config]⟩

theorem Schema.exists_bind {schema : Schema} {d : Descriptor} (sound : schema.IsSound) (trusted : d.tier.isShareable = true)
    (binds : ∀ params, d.payload = .configured params → ∃ bound, schema.bind params = .ok bound) :
    ∃ bound, schema.bind d.payload.params = .ok bound := by
  rw [Descriptor.tier] at trusted
  cases payload : d.payload with
  | predefined => exact ⟨_, schema.bind_nothing sound⟩
  | configured params => exact binds params payload
  | dynamic source =>
    rw [payload] at trusted
    cases trusted

/-- A gateway that creates a built-in strategy over an empty tier shares it: another gateway of the same configuration takes it up
from the tier, with one load and one hit, and its handle agrees with the first. -/
theorem Act.create_agrees {s s' : Scene} {d : Descriptor} {e : Entry} (known : Registry.builtin.get d.identity = .ok e)
    (trusted : d.tier.isShareable = true)
    (binds : ∀ params, d.payload = .configured params → ∃ bound, e.schema.bind params = .ok bound) (small : d.version < 2 ^ 64)
    (first : s.Lacks d) (empty : s.world.tier? = some .empty) (second : s'.Lacks d)
    (config : s'.gateway.config = s.gateway.config) (shared : s'.world.tier? = ((create d).run s).2.world.tier?) :
    ∃ h h', ((create d).run s).1 = .ok h ∧ ((create d).run s').1 = .ok h' ∧ h.Agrees h' ∧
      ((create d).run s').2.gateway.cache.sharedHits = s'.gateway.cache.sharedHits + 1 ∧
      ((create d).run s').2.gateway.loads = s'.gateway.loads + 1 := by
  have mem := Registry.mem_of_get known
  obtain ⟨bound, hbound⟩ := Schema.exists_bind (Registry.isSound_builtin e mem) trusted binds
  obtain ⟨strategy, built⟩ := Registry.exists_build known hbound
  -- the second gateway finds what the first one has put, and builds the bound parameters again
  obtain ⟨tier, put⟩ : ∃ tier, SharedTier.empty.put d.identity d.version (Snapshot.ofTrusted d bound).encode = .ok tier := ⟨_, rfl⟩
  obtain ⟨created, written⟩ := run_create_new (b := (bound, strategy)) first trusted built empty rfl put
  obtain ⟨restored, counted⟩ := run_create_restored second trusted (shared.trans written)
    (Snapshot.isPlain_bound mem hbound small ..) (SharedTier.get_put put) rfl (Registry.isSound_builtin.build_toParams built)
  exact ⟨_, _, created, restored, Scene.agrees_handle config d _, counted⟩

/-- One gateway creates a strategy with parameters of its own, and another one takes it up. -/
theorem Act.create_agrees_configured :
    let d : Descriptor := ⟨"momentum", 1, .configured [("rsi_period", .int 21)], "system"⟩
    let s : Scene := ⟨.new .standard, ⟨some .empty, none, 0⟩, []⟩
    let s' : Scene := ⟨.new .standard, ((create d).run s).2.world, []⟩
    Registry.builtin.get d.identity = .ok momentumEntry ∧ d.tier.isShareable = true ∧
      (∀ params, d.payload = .configured params → ∃ bound, momentumEntry.schema.bind params = .ok bound) ∧
      d.version < 2 ^ 64 ∧ s.Lacks d ∧ s.world.tier? = some .empty ∧ s'.Lacks d ∧ s'.gateway.config = s.gateway.config ∧
      s'.world.tier? = ((create d).run s).2.world.tier? ∧
      ∃ h h', ((create d).run s).1 = .ok h ∧ ((create d).run s').1 = .ok h' ∧ h.Agrees h' ∧
        ((create d).run s').2.gateway.cache.sharedHits = 1 ∧ ((create d).run s').2.gateway.loads = 1 := by
  intro d s s'
  have binds : ∀ params, d.payload = .configured params → ∃ bound, momentumEntry.schema.bind params = .ok bound := by
    rintro params ⟨⟩
    exact exists_of_isOk (by decide +kernel)
  have lacks (world : Surroundings) : (⟨.new .standard, world, []⟩ : Scene).Lacks d := ⟨rfl, rfl, rfl, Cache.misses_new _ _⟩
  exact ⟨rfl, rfl, binds, by decide, lacks _, rfl, lacks _, rfl, rfl,
    create_agrees rfl rfl binds (by decide) (lacks _) rfl (lacks _) rfl rfl⟩

end StrategyHost
