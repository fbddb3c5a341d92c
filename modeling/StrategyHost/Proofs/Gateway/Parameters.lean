import StrategyHost.Proofs.Gateway.Trust
import StrategyHost.Proofs.Snapshot

/-! # Whose parameters a handle has

A gateway that is asked for a configured strategy hands it out with the parameters of its descriptor (`RunsOwn`) just when no
snapshot that the shared tier offers gives other ones (`Act.create_runsOwn`). A snapshot says itself of which content it was
taken, so whoever writes to the tier can offer any parameters that the schema accepts. -/

namespace StrategyHost

/-! ### Own parameters -/

/-- A result has the parameters of its descriptor: a handle has what the schema binds them to, and where they do not bind
they are refused. -/
structure RunsOwn (r : Registry) (d : Descriptor) (result : Except LoadError Handle) : Prop where
  params : ∀ h, result = .ok h → ∃ entry bound, r.get d.identity = .ok entry ∧
    entry.schema.bind d.payload.params = .ok bound ∧ h.params? = some bound.toParams
  refused : ∀ entry e, r.get d.identity = .ok entry → entry.schema.bind d.payload.params = .error e →
    ∃ parameter reason, result = .error (.invalidParameter parameter reason)

/-- Whether nothing can be built from a snapshot but what the parameters of the descriptor give. -/
def Snapshot.IsFaithful (snapshot : Snapshot) (r : Registry) (d : Descriptor) : Prop :=
  ∀ b, r.build d.identity snapshot.params = .ok b → r.build d.identity d.payload.params = .ok b

theorem Registry.build_error {r : Registry} {identity : String} {entry : Entry} {params : Params} {e : LoadError}
    (known : r.get identity = .ok entry) (h : entry.schema.bind params = .error e) : r.build identity params = .error e := by
  simp [build, known, h, Bind.bind, Except.bind]

theorem Registry.choose_of_faithful {r : Registry} {d : Descriptor} {offered? : Option Snapshot}
    (faithful : ∀ snapshot ∈ offered?, snapshot.IsFaithful r d) :
    r.choose d offered? = r.build d.identity d.payload.params := by
  rcases r.choose_cases d offered? with ⟨snapshot, offered, b, restored, chosen⟩ | ⟨-, chosen⟩
  · rw [chosen, faithful snapshot offered b restored]
  · exact chosen

theorem SharedTier.offered?_of_get {t : SharedTier} {key : CacheKey} {snapshot : Snapshot} (plain : snapshot.IsPlain)
    (held : t.get key.identity key.version = .ok (some snapshot.encode)) (same : snapshot.contentHash = key.contentHash) :
    t.offered? key = some snapshot := by
  simp only [offered?, held, Snapshot.decode_encode plain, Except.toOption]
  exact Option.filter_eq_some_iff.2 ⟨rfl, decide_eq_true same⟩

theorem Scene.offered?_of_tier {s : Scene} {t : SharedTier} {key : CacheKey} (running : s.gateway.cache.closed = false)
    (held : s.world.tier? = some t) : s.offered? key = t.offered? key := by
  simp [offered?, running, held]

namespace Act
variable {s : Scene} {d : Descriptor} {params : Params}

theorem runsOwn_of_follows {r : Registry} {result : Except LoadError Handle}
    (follows : Follows s d (r.build d.identity d.payload.params) result) : RunsOwn r d result where
  params := by
    rintro h rfl
    cases built : r.build d.identity d.payload.params with
    | error e => exact absurd (follows.2 e built) (by simp)
    | ok b =>
      obtain ⟨entry, known, binds, -⟩ := Registry.build_eq_ok.1 built
      rcases follows.1 b built with handed | ⟨-, breach, failed⟩
      · cases handed
        exact ⟨entry, b.1, known, binds, rfl⟩
      · cases failed
  refused := by
    intro entry e known unbound
    obtain ⟨parameter, reason, rfl⟩ := Schema.exists_of_bind unbound
    exact ⟨parameter, reason, follows.2 _ (Registry.build_error known unbound)⟩

theorem eq_of_toParams_eq {entry : Entry} {raw raw' : Params} {b b' : Bound} (sound : entry.schema.IsSound)
    (h : entry.schema.bind raw = .ok b) (h' : entry.schema.bind raw' = .ok b') (same : b.toParams = b'.toParams) : b = b' := by
  have again := Schema.bind_toParams sound h
  rw [same, Schema.bind_toParams sound h'] at again
  exact (Except.ok.inj again).symm

theorem isFaithful_of_runsOwn {snapshot : Snapshot} (sound : s.gateway.registry.IsSound)
    (lazy : s.gateway.config.factory.eagerValidation = false) (trusted : d.tier.isShareable = true)
    (misses : s.gateway.cache.Misses d.cacheKey) (offered : snapshot ∈ s.offered? d.cacheKey)
    (own : RunsOwn s.gateway.registry d ((create d).run s).1) : snapshot.IsFaithful s.gateway.registry d := by
  intro b restored
  have chosen : s.chosen d = .ok b := by
    rw [Scene.chosen, offered, Registry.choose, Option.bind_some, restored]
    rfl
  have handed : ((create d).run s).1 = .ok (s.handle d b) := by
    rw [create_lazy (fun _ => sound) lazy trusted misses, chosen]
    rfl
  obtain ⟨entry, known, binds, builds⟩ := Registry.build_eq_ok.1 restored
  obtain ⟨entry', bound, known', binds', same⟩ := own.params _ handed
  obtain rfl : entry = entry' := Except.ok.inj (known.symm.trans known')
  obtain rfl := eq_of_toParams_eq (sound entry (Registry.mem_of_get known)) binds binds' (Option.some.inj same)
  exact Registry.build_eq_ok.2 ⟨entry, known, binds', builds⟩

/-- A configured strategy is handed out with the parameters of its descriptor, and refused where they do not bind, if no
snapshot that is offered gives others. Without trial runs that condition is necessary as well. -/
theorem create_runsOwn (configured : d.payload = .configured params) (misses : s.gateway.cache.Misses d.cacheKey) :
    ((∀ snapshot ∈ s.offered? d.cacheKey, snapshot.IsFaithful s.gateway.registry d) →
      RunsOwn s.gateway.registry d ((create d).run s).1) ∧
    (s.gateway.registry.IsSound → s.gateway.config.factory.eagerValidation = false →
      RunsOwn s.gateway.registry d ((create d).run s).1 →
        ∀ snapshot ∈ s.offered? d.cacheKey, snapshot.IsFaithful s.gateway.registry d) := by
  have trusted : d.tier.isShareable = true := by
    rw [Descriptor.tier, configured]
    rfl
  have notPredefined (h : d.tier = .predefined) : s.gateway.registry.IsSound := by
    rw [Descriptor.tier, configured] at h
    cases h
  constructor
  · intro faithful
    have follows := follows_create notPredefined trusted misses
    rw [Scene.chosen, Registry.choose_of_faithful faithful] at follows
    exact runsOwn_of_follows follows
  · intro sound lazy own snapshot offered
    exact isFaithful_of_runsOwn sound lazy trusted misses offered own

/-- A gateway without a shared tier has nothing to take the parameters from but the descriptor. -/
theorem create_runsOwn_unshared :
    let d : Descriptor := ⟨"momentum", 1, .configured [("rsi_period", .int 21)], "system"⟩
    let s : Scene := ⟨.new .standard, ⟨none, none, 0⟩, []⟩
    d.payload = .configured [("rsi_period", .int 21)] ∧ s.gateway.cache.Misses d.cacheKey ∧
      RunsOwn .builtin d ((create d).run s).1 := by
  intro d s
  have misses : s.gateway.cache.Misses d.cacheKey := Cache.misses_new _ _
  exact ⟨rfl, misses, (create_runsOwn rfl misses).1 nofun⟩

/-- A snapshot with parameters of its own that names the content of a descriptor is taken up, also where the parameters of
the descriptor are to be refused. -/
theorem not_create_runsOwn : ¬ ∀ (s : Scene) (d : Descriptor) (params : Params), s.gateway.registry = .builtin →
    d.payload = .configured params → s.gateway.cache.Misses d.cacheKey → RunsOwn .builtin d ((create d).run s).1 := by
  intro always
  let d : Descriptor := ⟨"momentum", 1, .configured [("rsi_period", .int 500)], "system"⟩
  let forged : Snapshot := ⟨"momentum", 1, d.contentHash, .configured, [("rsi_period", .int 30)],
    .trusted .configured d.contentHash⟩
  let tier : SharedTier := ⟨[(SharedTier.keyFor "momentum" 1, forged.encode)], false⟩
  let s : Scene := ⟨.new .standard, ⟨some tier, none, 0⟩, []⟩
  have misses : s.gateway.cache.Misses d.cacheKey := Cache.misses_new _ _
  have plain : forged.IsPlain := {
    version := by decide
    verdict := ⟨_, _, rfl⟩
    value := ⟨⟨by decide, by decide⟩, trivial⟩
    sorted := ⟨⟨trivial, trivial⟩, List.pairwise_singleton ..⟩
    depth := by decide
    doubles := nofun }
  have held : tier.get d.cacheKey.identity d.cacheKey.version = .ok (some forged.encode) :=
    congrArg Except.ok (if_pos rfl)
  have offered : s.offered? d.cacheKey = some forged :=
    (Scene.offered?_of_tier rfl rfl).trans (SharedTier.offered?_of_get plain held rfl)
  have faithful := isFaithful_of_runsOwn Registry.isSound_builtin rfl rfl misses offered (always s d _ rfl rfl misses)
  obtain ⟨b, restored⟩ := exists_of_isOk
    (by decide +kernel : (Registry.builtin.build "momentum" [("rsi_period", .int 30)]).isOk = true)
  have refuses : (Registry.builtin.build "momentum" [("rsi_period", .int 500)]).isOk = false := by decide +kernel
  have own : Registry.builtin.build "momentum" [("rsi_period", .int 500)] = .ok b := faithful b restored
  rw [own] at refuses
  cases refuses

end Act

end StrategyHost
