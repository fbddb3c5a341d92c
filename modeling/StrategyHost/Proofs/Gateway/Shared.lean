import StrategyHost.Gateway.Basic
import StrategyHost.Proofs.Cache.Steps
import StrategyHost.Proofs.Load

/-! # What the shared tier can change

`Scene.chosen` is what a trusted descriptor is built from when nothing is cached for it: a snapshot that the shared tier offers
and that can be built, or else its own parameters. `Act.follows_create` says that the result depends on the shared tier
through this choice only. -/

namespace StrategyHost
variable {α β : Type}

/-- The snapshot of a key, if the tier holds one that can be read and names the content of the key. -/
def SharedTier.offered? (t : SharedTier) (key : CacheKey) : Option Snapshot :=
  match t.get key.identity key.version with
  | .ok (some bytes) => (Snapshot.decode bytes).toOption.filter (·.contentHash = key.contentHash)
  | _ => none

/-- What a descriptor is built from: a snapshot that can be built, or its own parameters. -/
def Registry.choose (r : Registry) (d : Descriptor) (offered? : Option Snapshot) : Except LoadError (Bound × Strategy) :=
  match offered?.bind fun snapshot => (r.build d.identity snapshot.params).toOption with
  | some b => .ok b
  | none => r.build d.identity d.payload.params

theorem Registry.choose_cases (r : Registry) (d : Descriptor) (offered? : Option Snapshot) :
    (∃ snapshot ∈ offered?, ∃ b, r.build d.identity snapshot.params = .ok b ∧ r.choose d offered? = .ok b) ∨
      (∀ snapshot ∈ offered?, ∀ b, r.build d.identity snapshot.params ≠ .ok b) ∧
        r.choose d offered? = r.build d.identity d.payload.params := by
  cases offered? with
  | none => exact .inr ⟨nofun, rfl⟩
  | some snapshot =>
    simp only [choose, Option.bind_some, Option.mem_some_iff, exists_eq_left', forall_eq']
    cases r.build d.identity snapshot.params with
    | error e => exact .inr ⟨nofun, rfl⟩
    | ok b => exact .inl ⟨b, rfl, rfl⟩

namespace Scene
variable (s : Scene) (d : Descriptor)

/-- What a gateway finds for a key in the shared tier; one whose cache is closed does not look. -/
def offered? (key : CacheKey) : Option Snapshot :=
  if s.gateway.cache.closed then none else s.world.tier?.bind (·.offered? key)

def chosen : Except LoadError (Bound × Strategy) := s.gateway.registry.choose d (s.offered? d.cacheKey)

def handle (b : Bound × Strategy) : Handle :=
  ⟨s.world.nextInstance, d.cacheKey, d.tier, .native b.2, Act.grantFor s.gateway.config d (.trusted d b),
    .trusted d.tier d.contentHash, some b.1.toParams, s.gateway.config.limits⟩

/-- The other scene has the same settings, strategies and numbers. -/
structure Keeps (s s' : Scene) : Prop where
  config : s'.gateway.config = s.gateway.config
  registry : s'.gateway.registry = s.gateway.registry
  nextInstance : s'.world.nextInstance = s.world.nextInstance

variable {s} {s' s'' : Scene} {d}

theorem Keeps.trans (h : s.Keeps s') (h' : s'.Keeps s'') : s.Keeps s'' :=
  ⟨h'.config.trans h.config, h'.registry.trans h.registry, h'.nextInstance.trans h.nextInstance⟩

theorem Keeps.handle_eq (h : s.Keeps s') (b : Bound × Strategy) : s'.handle d b = s.handle d b := by
  rw [handle, handle, h.config, h.nextInstance]

end Scene

namespace Act
variable {s s' : Scene} {d : Descriptor} {b : Bound × Strategy} {key : CacheKey} {load : Loading Loaded}
  {result : Except LoadError Handle}

theorem run_bind (x : Act α) (f : α → Act β) (s : Scene) : (x >>= f).run s = (f (x.run s).1).run (x.run s).2 := rfl

theorem run_get (s : Scene) : (get : Act Scene).run s = (s, s) := rfl

theorem run_readShared (s : Scene) (key : CacheKey) :
    ∃ s', (readShared key).run s = (s.world.tier?.bind (·.offered? key), s') ∧ s.Keeps s' := by
  simp only [readShared, run_bind, run_get]
  cases s.world.tier? with
  | none => exact ⟨s, rfl, rfl, rfl, rfl⟩
  | some tier =>
    simp only [Option.bind_some, SharedTier.offered?]
    rcases tier.get key.identity key.version with e | _ | bytes
    · exact ⟨_, rfl, rfl, rfl, rfl⟩
    · exact ⟨s, rfl, rfl, rfl, rfl⟩
    · dsimp only
      cases Snapshot.decode bytes with
      | error f => exact ⟨_, rfl, rfl, rfl, rfl⟩
      | ok snapshot =>
        dsimp only [Except.toOption]
        by_cases same : snapshot.contentHash = key.contentHash
        · simp only [same, Option.filter_some, decide_true, ↓reduceIte]
          exact ⟨_, rfl, rfl, rfl, rfl⟩
        · simp only [same, Option.filter_some, decide_false, Bool.false_eq_true, ↓reduceIte]
          exact ⟨s, rfl, rfl, rfl, rfl⟩

theorem run_runLoading (s : Scene) (d : Descriptor) (load : Loading Loaded) :
    ∃ s', (runLoading d load).run s = ((load.run.run ⟨.new d.cacheKey, s.gateway.sanitizer⟩).1, s') ∧ s.Keeps s' :=
  ⟨_, rfl, rfl, rfl, rfl⟩

/-- A strategy is handed out, unless it breaks a budget in its trial run. -/
def HandsOut (s : Scene) (d : Descriptor) (b : Bound × Strategy) (result : Except LoadError Handle) : Prop :=
  result = .ok (s.handle d b) ∨ s.gateway.config.factory.eagerValidation = true ∧ ∃ breach, result = .error (.limitExceeded breach)

theorem run_tryOut (s : Scene) (d : Descriptor) (h : Handle) :
    ((tryOut d h).run s).1 = .ok () ∨ ∃ breach, ((tryOut d h).run s).1 = .error (.limitExceeded breach) := by
  simp only [tryOut, run_bind]
  rcases (h.invoke d.actor probe).1 with e | set
  · cases e with
    | limitExceeded breach => exact .inr ⟨breach, rfl⟩
    | _ => exact .inl rfl
  · exact .inl rfl

theorem handsOut_handOut (s : Scene) (d : Descriptor) (b : Bound × Strategy) :
    HandsOut s d b ((handOut d (.trusted d b)).run s).1 := by
  obtain ⟨s₁, made, settings⟩ : ∃ s₁, (handleOf d (.trusted d b)).run s = (s.handle d b, s₁) ∧
      s₁.gateway.config = s.gateway.config := ⟨_, rfl, rfl⟩
  have asked : config.run s₁ = (s.gateway.config, s₁) := by rw [← settings]; rfl
  simp only [handOut, run_bind, made, asked]
  cases eager : s.gateway.config.factory.eagerValidation with
  | false => exact .inl rfl
  | true =>
    simp only [↓reduceIte, run_bind]
    rcases run_tryOut s₁ d (s.handle d b) with passed | ⟨breach, failed⟩
    · rw [passed]
      exact .inl rfl
    · rw [failed]
      exact .inr ⟨eager, breach, rfl⟩

/-- What becomes of a choice: what can be built is handed out, and what cannot be is refused for the reason. -/
def Follows (s : Scene) (d : Descriptor) (choice : Except LoadError (Bound × Strategy)) (result : Except LoadError Handle) :
    Prop :=
  (∀ b, choice = .ok b → HandsOut s d b result) ∧ ∀ e, choice = .error e → result = .error e

theorem HandsOut.of_keeps (keeps : s.Keeps s') (h : HandsOut s' d b result) : HandsOut s d b result := by
  rwa [HandsOut, keeps.handle_eq, keeps.config] at h

theorem Follows.of_keeps {choice : Except LoadError (Bound × Strategy)} (keeps : s.Keeps s')
    (h : Follows s' d choice result) : Follows s d choice result :=
  ⟨fun b hb => (h.1 b hb).of_keeps keeps, h.2⟩

theorem follows_loadAnew (sound : d.tier = .predefined → s.gateway.registry.IsSound) (trusted : d.tier.isShareable = true) :
    Follows s d (s.gateway.registry.build d.identity d.payload.params) ((loadAnew d).run s).1 := by
  obtain ⟨s₁, loaded, keeps⟩ := run_runLoading s d (Loader.load s.gateway.registry d)
  rw [Loader.run_load sound trusted] at loaded
  simp only [loadAnew, run_bind, run_get, loaded]
  cases s.gateway.registry.build d.identity d.payload.params with
  | error e => exact ⟨nofun, fun _ h => h ▸ rfl⟩
  | ok b =>
    refine ⟨?_, nofun⟩
    rintro b ⟨⟩
    exact (handsOut_handOut s₁ d b).of_keeps keeps

theorem follows_loadFrom {offered? : Option Snapshot} (sound : d.tier = .predefined → s.gateway.registry.IsSound)
    (trusted : d.tier.isShareable = true) (same : ∀ snapshot ∈ offered?, snapshot.contentHash = d.contentHash) :
    Follows s d (s.gateway.registry.choose d offered?) ((loadFrom d offered?).run s).1 := by
  cases offered? with
  | none =>
    simp only [loadFrom, trusted, ↓reduceIte]
    exact follows_loadAnew sound trusted
  | some snapshot =>
    obtain ⟨s₁, loaded, keeps⟩ := run_runLoading s d (Loader.restore s.gateway.registry d snapshot)
    rw [Loader.run_restore (same snapshot rfl)] at loaded
    simp only [loadFrom, trusted, ↓reduceIte, run_bind, run_get, loaded, Registry.choose, Option.bind_some]
    cases s.gateway.registry.build d.identity snapshot.params with
    | error e =>
      have anew := follows_loadAnew (keeps.registry ▸ sound) trusted
      rw [keeps.registry] at anew
      exact anew.of_keeps keeps
    | ok b =>
      refine ⟨?_, nofun⟩
      rintro b ⟨⟩
      exact (handsOut_handOut s₁ d b).of_keeps keeps

end Act

/-! ### Creating a handle -/

structure Cache.Misses (c : Cache α) (key : CacheKey) : Prop where
  entry : c.entry? key = none
  pending : c.pending.find? (·.key = key) = none

theorem Cache.Misses.lookup {c : Cache α} {key : CacheKey} (misses : c.Misses key) :
    c.lookup key = if c.closed then (.closed, c) else (.began (c.begin key).1, (c.begin key).2) := by
  rw [Cache.lookup, misses.entry, misses.pending]

theorem Cache.misses_new (config : CacheConfig) (key : CacheKey) : (Cache.new config : Cache α).Misses key := ⟨rfl, rfl⟩

theorem SharedTier.contentHash_of_offered? {t : SharedTier} {key : CacheKey} {snapshot : Snapshot}
    (h : t.offered? key = some snapshot) : snapshot.contentHash = key.contentHash := by
  rw [offered?] at h
  split at h
  · simpa using (Option.filter_eq_some_iff.1 h).2
  · cases h

namespace Act
variable {s : Scene} {d : Descriptor}

theorem run_runLoad (s : Scene) (trusted : d.tier.isShareable = true) (t : Ticket) : ∃ s', s.Keeps s' ∧
    ((runLoad d t).run s).1 = ((loadFrom d (s.world.tier?.bind (·.offered? t.key))).run s').1 := by
  obtain ⟨s₁, looked, keeps⟩ := run_readShared s t.key
  refine ⟨s₁, keeps, ?_⟩
  simp only [runLoad, trusted, ↓reduceIte, run_bind, looked]
  generalize (loadFrom d _).run s₁ = loaded
  cases loaded.1 <;> rfl

theorem run_lookup (s : Scene) (d : Descriptor) : (lookup d).run s =
    ((s.gateway.cache.lookup d.cacheKey).1,
      { s with gateway := { s.gateway with cache := (s.gateway.cache.lookup d.cacheKey).2 } }) := rfl

theorem run_create (trusted : d.tier.isShareable = true) (misses : s.gateway.cache.Misses d.cacheKey) :
    ∃ s', s.Keeps s' ∧ ((create d).run s).1 = ((loadFrom d (s.offered? d.cacheKey)).run s').1 := by
  simp only [create, run_bind, run_lookup, misses.lookup, Scene.offered?]
  split
  · exact ⟨((noteClosed d).run s).2, ⟨rfl, rfl, rfl⟩, rfl⟩
  · obtain ⟨s₁, keeps, loaded⟩ := run_runLoad
      { s with gateway := { s.gateway with cache := (s.gateway.cache.begin d.cacheKey).2 } } trusted
      (s.gateway.cache.begin d.cacheKey).1
    exact ⟨s₁, ⟨keeps.config, keeps.registry, keeps.nextInstance⟩, loaded⟩

/-- A gateway that has nothing for a trusted descriptor hands out what it has chosen to build. -/
theorem follows_create (sound : d.tier = .predefined → s.gateway.registry.IsSound) (trusted : d.tier.isShareable = true)
    (misses : s.gateway.cache.Misses d.cacheKey) : Follows s d (s.chosen d) ((create d).run s).1 := by
  obtain ⟨s₁, keeps, created⟩ := run_create trusted misses
  rw [created, Scene.chosen, ← keeps.registry]
  refine (follows_loadFrom (keeps.registry ▸ sound) trusted fun snapshot offered => ?_).of_keeps keeps
  unfold Scene.offered? at offered
  split at offered
  · cases offered
  · obtain ⟨tier, -, offered⟩ := Option.bind_eq_some_iff.1 offered
    exact SharedTier.contentHash_of_offered? offered

end Act

end StrategyHost
