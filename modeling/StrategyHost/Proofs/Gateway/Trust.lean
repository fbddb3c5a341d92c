import StrategyHost.Proofs.Gateway.Shared

/-! # Trust in what the shared tier holds

A trusted descriptor that loads without a shared tier loads with any, and to a handle that is trusted just as far
(`Act.create_sameTrust`). What the shared tier can change is the parameters. -/

namespace StrategyHost

def Scene.withTier (s : Scene) (tier? : Option SharedTier) : Scene := { s with world := { s.world with tier? := tier? } }

/-- Two handles that are trusted alike: of one tier, with the same verdict and the same grant. -/
structure Handle.SameTrust (h h' : Handle) : Prop where
  tier : h'.tier = h.tier
  verdict : h'.verdict = h.verdict
  grant : h'.grant = h.grant

theorem Scene.handle_sameTrust (s : Scene) (tier? tier?' : Option SharedTier) (d : Descriptor) (b b' : Bound × Strategy) :
    ((s.withTier tier?).handle d b).SameTrust ((s.withTier tier?').handle d b') := ⟨rfl, rfl, rfl⟩

/-- Whether the schema of a handle's strategy accepts the parameters that the handle has. -/
def Registry.Accepts (r : Registry) (h : Handle) : Prop :=
  ∃ entry bound, r.get h.key.identity = .ok entry ∧ h.params? = some bound.toParams ∧ entry.schema.bind bound.toParams = .ok bound

namespace Act
variable {s : Scene} {d : Descriptor} {h : Handle}

theorem accepts_handle {r : Registry} {params : Params} {b : Bound × Strategy} (sound : r.IsSound)
    (built : r.build d.identity params = .ok b) : r.Accepts (s.handle d b) := by
  obtain ⟨entry, known, binds, -⟩ := Registry.build_eq_ok.1 (sound.build_toParams built)
  exact ⟨entry, b.1, known, rfl, binds⟩

theorem create_lazy (sound : d.tier = .predefined → s.gateway.registry.IsSound)
    (lazy : s.gateway.config.factory.eagerValidation = false) (trusted : d.tier.isShareable = true)
    (misses : s.gateway.cache.Misses d.cacheKey) :
    ((create d).run s).1 = (s.chosen d).map (s.handle d) := by
  obtain ⟨handed, refused⟩ := follows_create sound trusted misses
  cases choice : s.chosen d with
  | error e => exact refused e choice
  | ok b =>
    rcases handed b choice with handed | ⟨eager, -⟩
    · exact handed
    · exact absurd (lazy.symm.trans eager) (by decide)

theorem chosen_withTier_none (s : Scene) (d : Descriptor) :
    (s.withTier none).chosen d = s.gateway.registry.build d.identity d.payload.params := by
  have nothing : (s.withTier none).offered? d.cacheKey = none := by
    unfold Scene.offered?
    split <;> rfl
  rw [Scene.chosen, nothing]
  rfl

/-- A trusted descriptor that loads without a shared tier loads with any shared tier, whatever that holds, and to a handle of
the same trust whose parameters its schema accepts. -/
theorem create_sameTrust (builtin : s.gateway.registry = .builtin)
    (lazy : s.gateway.config.factory.eagerValidation = false) (trusted : d.tier.isShareable = true)
    (misses : s.gateway.cache.Misses d.cacheKey) (alone : ((create d).run (s.withTier none)).1 = .ok h)
    (tier? : Option SharedTier) :
    ∃ h', ((create d).run (s.withTier tier?)).1 = .ok h' ∧ h.SameTrust h' ∧ Registry.builtin.Accepts h' := by
  have sound (_ : d.tier = .predefined) : s.gateway.registry.IsSound := builtin ▸ Registry.isSound_builtin
  have created (tier? : Option SharedTier) := create_lazy (s := s.withTier tier?) sound lazy trusted misses
  rw [created, chosen_withTier_none] at alone
  obtain ⟨own, built, rfl⟩ := map_eq_ok.1 alone
  -- whether a snapshot is taken or not, something is built from some parameters
  obtain ⟨params, b, from', chosen⟩ : ∃ params b, s.gateway.registry.build d.identity params = .ok b ∧
      (s.withTier tier?).chosen d = .ok b := by
    rcases Registry.choose_cases s.gateway.registry d ((s.withTier tier?).offered? d.cacheKey) with
      ⟨snapshot, -, b, restored, chosen⟩ | ⟨-, chosen⟩
    · exact ⟨_, b, restored, chosen⟩
    · exact ⟨_, own, built, chosen.trans built⟩
  refine ⟨(s.withTier tier?).handle d b, ?_, s.handle_sameTrust none tier? d own b,
    accepts_handle Registry.isSound_builtin (builtin ▸ from')⟩
  rw [created, chosen]
  rfl

/-- A snapshot that is forged for the content of a descriptor, with other parameters and another tier, is taken up without
more trust. -/
theorem create_sameTrust_forged :
    let d : Descriptor := ⟨"momentum", 1, .configured [("rsi_period", .int 21)], "system"⟩
    let s : Scene := ⟨.new .standard, ⟨none, none, 0⟩, []⟩
    let forged : Snapshot := ⟨"momentum", 1, d.contentHash, .predefined, [("rsi_period", .int 30)], .trusted .predefined ""⟩
    let tier : SharedTier := ⟨[(SharedTier.keyFor "momentum" 1, forged.encode)], false⟩
    s.gateway.registry = .builtin ∧ s.gateway.config.factory.eagerValidation = false ∧ d.tier.isShareable = true ∧
      s.gateway.cache.Misses d.cacheKey ∧ ∃ h, ((create d).run (s.withTier none)).1 = .ok h ∧
        ∃ h', ((create d).run (s.withTier (some tier))).1 = .ok h' ∧ h.SameTrust h' ∧ Registry.builtin.Accepts h' := by
  intro d s forged tier
  have misses : s.gateway.cache.Misses d.cacheKey := Cache.misses_new _ _
  obtain ⟨b, built⟩ := exists_of_isOk (by decide +kernel : (Registry.builtin.build d.identity d.payload.params).isOk = true)
  have alone : ((create d).run (s.withTier none)).1 = .ok ((s.withTier none).handle d b) := by
    rw [create_lazy (s := s.withTier none) (fun _ => Registry.isSound_builtin) rfl rfl misses, chosen_withTier_none]
    exact congrArg (Except.map _) built
  exact ⟨rfl, rfl, rfl, misses, _, alone, create_sameTrust rfl rfl rfl misses alone (some tier)⟩

end Act

end StrategyHost
