import StrategyHost.Proofs.Gateway.Keeping

/-!
# What a load leaves in the shared tier

A gateway that finds nothing usable in the shared tier loads a trusted descriptor from what it holds itself, and writes a snapshot
unless the tier had offered one. Whether the offered snapshot could be restored plays no part in that. Main statement:
`Act.create_restores_iff`: once a load has left its entry, the shared tier holds a snapshot that can be restored, unless it held one
that reads well, names the content and cannot be restored; that one stays.
-/

namespace StrategyHost
variable {d : Descriptor}

/-! ### What a tier holds -/

/-- The built-in strategies can be restored from the snapshot. -/
def Snapshot.Restores (snapshot : Snapshot) (d : Descriptor) : Prop :=
  ∀ sanitizer, ∃ l, ((Loader.restore .builtin d snapshot).run.run ⟨.new d.cacheKey, sanitizer⟩).1 = .ok l

/-- The bytes of a descriptor's identity and version are a snapshot of its content. -/
structure SharedTier.Holds (tier : SharedTier) (d : Descriptor) (snapshot : Snapshot) : Prop where
  bytes : ∃ bytes, tier.get d.identity d.version = .ok (some bytes) ∧ Snapshot.decode bytes = .ok snapshot
  content : snapshot.contentHash = d.contentHash

def SharedTier.IsHealthy (tier : SharedTier) (d : Descriptor) : Prop := ∃ snapshot, tier.Holds d snapshot ∧ snapshot.Restores d

def SharedTier.IsSpoiled (tier : SharedTier) (d : Descriptor) : Prop := ∃ snapshot, tier.Holds d snapshot ∧ ¬snapshot.Restores d

theorem Snapshot.restores_iff {snapshot : Snapshot} (same : snapshot.contentHash = d.contentHash) :
    snapshot.Restores d ↔ ∃ b, Registry.builtin.build d.identity snapshot.params = .ok b := by
  simp only [Restores, Loader.run_restore same, map_eq_ok]
  exact ⟨fun restores => (restores (.new Wasm.plainComponent .standard)).elim fun _ ⟨b, built, _⟩ => ⟨b, built⟩,
    fun ⟨b, built⟩ _ => ⟨_, b, built, rfl⟩⟩

theorem SharedTier.offered?_eq_some_iff {tier : SharedTier} {snapshot : Snapshot} :
    tier.offered? d.cacheKey = some snapshot ↔ tier.Holds d snapshot := by
  rw [offered?]
  constructor
  · intro offered
    split at offered
    case h_1 bytes found =>
      obtain ⟨decodes, content⟩ := Option.filter_eq_some_iff.1 offered
      refine ⟨⟨bytes, found, ?_⟩, of_decide_eq_true content⟩
      cases read : Snapshot.decode bytes with
      | error f =>
        rw [read] at decodes
        cases decodes
      | ok other =>
        rw [read] at decodes
        exact congrArg Except.ok (Option.some.inj decodes)
    case h_2 => cases offered
  · rintro ⟨⟨bytes, found, decodes⟩, content⟩
    have found : tier.get d.cacheKey.identity d.cacheKey.version = .ok (some bytes) := found
    simp only [found, decodes, Except.toOption]
    exact Option.filter_eq_some_iff.2 ⟨rfl, decide_eq_true content⟩

/-- A tier holds one snapshot of a descriptor at most, so it is not both healthy and spoiled. -/
theorem SharedTier.isHealthy_iff {tier : SharedTier} {snapshot : Snapshot} (holds : tier.Holds d snapshot) :
    tier.IsHealthy d ↔ ¬tier.IsSpoiled d := by
  have only : ∀ other, tier.Holds d other → other = snapshot := fun other held =>
    Option.some.inj ((offered?_eq_some_iff.2 held).symm.trans (offered?_eq_some_iff.2 holds))
  constructor
  · rintro ⟨good, heldGood, restores⟩ ⟨bad, heldBad, fails⟩
    rw [only good heldGood] at restores
    rw [only bad heldBad] at fails
    exact fails restores
  · intro sound
    by_contra ill
    exact sound ⟨snapshot, holds, fun restores => ill ⟨snapshot, holds, restores⟩⟩

/-! ### Acts that leave the cache and the tier alone -/

namespace Scene.After
variable {s s' : Scene}

theorem entry_eq (after : s.After none s') (key : CacheKey) : s'.gateway.cache.entry? key = s.gateway.cache.entry? key := by
  obtain ⟨_, _, cache⟩ := after.cache
  rw [cache]
  rfl

theorem closed (after : s.After none s') : s'.gateway.cache.closed = s.gateway.cache.closed := by
  obtain ⟨_, _, cache⟩ := after.cache
  rw [cache]
  rfl

theorem generationOf (after : s.After none s') (pair : Pair) :
    s'.gateway.cache.generationOf pair = s.gateway.cache.generationOf pair := by
  obtain ⟨_, _, cache⟩ := after.cache
  rw [cache]
  rfl

theorem tier_eq (after : s.After none s') : s'.world.tier? = s.world.tier? := by
  rw [after.tier]
  exact congrFun Option.map_id _

end Scene.After

/-! ### Loads that leave an entry -/

namespace Act
variable {s : Scene} {tier : SharedTier} {b : Bound × Strategy} {t : Ticket} {offered? : Option Snapshot}

theorem run_loadFrom_chosen (registry : s.gateway.registry = .builtin) (lazy : s.gateway.config.factory.eagerValidation = false)
    (trusted : d.tier.isShareable = true) (same : ∀ snapshot ∈ offered?, snapshot.contentHash = d.contentHash)
    (chosen : Registry.builtin.choose d offered? = .ok b) :
    ∃ s', (loadFrom d offered?).run s = (.ok (s.handle d b), s') ∧ s.After none s' := by
  have follows := follows_loadFrom (s := s) (fun _ => registry ▸ Registry.isSound_builtin) trusted same
  rw [registry] at follows
  have handed : ((loadFrom d offered?).run s).1 = .ok (s.handle d b) := by
    rcases follows.1 b chosen with handed | ⟨eager, -⟩
    · exact handed
    · rw [lazy] at eager
      cases eager
  exact ⟨_, Prod.ext handed rfl, (spares_loadFrom d offered? s).1⟩

theorem run_look (held : s.world.tier? = some tier) (trusted : d.tier.isShareable = true) (key : t.key = d.cacheKey) :
    ∃ s', (LoadStage.look d t).run s = (tier.offered? d.cacheKey, s') ∧ s.Keeps s' ∧ s.After none s' := by
  obtain ⟨s', looked, keeps⟩ := run_readShared s t.key
  have spares := (spares_readShared t.key s).1
  rw [looked] at spares
  rw [held, key] at looked
  refine ⟨s', ?_, keeps, spares⟩
  rw [LoadStage.look, if_pos trusted, key]
  exact looked

/-- A load that is not overtaken gives the handle of what it has chosen. Where the tier had no snapshot of the content it has one of
the strategy afterwards, and else it is as it was. -/
theorem run_runLoad_chosen (registry : s.gateway.registry = .builtin) (lazy : s.gateway.config.factory.eagerValidation = false)
    (trusted : d.tier.isShareable = true) (key : t.key = d.cacheKey) (opened : s.gateway.cache.closed = false)
    (current : s.gateway.cache.generationOf t.key.pair = t.generation) (held : s.world.tier? = some tier)
    (online : tier.offline = false) (chosen : Registry.builtin.choose d (tier.offered? d.cacheKey) = .ok b) :
    ((runLoad d t).run s).1 = .ok (s.handle d b) ∧ ∃ tier', ((runLoad d t).run s).2.world.tier? = some tier' ∧
      if tier.offered? d.cacheKey = none then tier'.get d.identity d.version = .ok (some (Snapshot.ofTrusted d b.1).encode)
      else tier' = tier := by
  obtain ⟨s₁, looked, keeps, after₁⟩ := run_look held trusted key
  obtain ⟨s₂, loaded, after₂⟩ := run_loadFrom_chosen (keeps.registry.trans registry) (keeps.config ▸ lazy) trusted
    (fun snapshot offered => SharedTier.contentHash_of_offered? offered) chosen
  rw [keeps.handle_eq] at loaded
  have after : s.After none s₂ := after₁.none_trans after₂
  rw [LoadStage.runLoad_eq]
  simp only [run_bind, looked, loaded]
  refine ⟨rfl, ?_⟩
  cases tier.offered? d.cacheKey with
  | some snapshot =>
    rw [Option.isSome_some, run_keep_restored]
    exact ⟨tier, after.tier_eq.trans held, rfl⟩
  | none =>
    have kept : (s₂.gateway.cache.finish t (.loaded (s.handle d b))).1 = true :=
      Cache.kept_finish (after.closed.trans opened) ((after.generationOf _).trans current) _
    obtain ⟨tier', put, -, got, -⟩ := SharedTier.put_spec online (d.identity, d.version) (Snapshot.ofTrusted d b.1).encode
    exact ⟨tier', run_keep_new kept trusted rfl (after.tier_eq.trans held) put, got⟩

theorem contains_runLoad {h : Handle} (loaded : ((runLoad d t).run s).1 = .ok h) (absent : s.gateway.cache.entry? t.key = none)
    (opened : s.gateway.cache.closed = false) (current : s.gateway.cache.generationOf t.key.pair = t.generation) :
    ((runLoad d t).run s).2.gateway.cache.contains t.key = true := by
  obtain ⟨_, _, alike⟩ := alike_runLoad loaded
  obtain ⟨-, -, found⟩ := Cache.entries_insert (c := s.gateway.cache.settle t) absent h
  have finished : (s.gateway.cache.finish t (.loaded h)).2 = (s.gateway.cache.settle t).insert t.key h := by
    rw [Cache.finish_loaded, if_pos ⟨opened, current⟩]
  rw [alike, finished]
  exact congrArg Option.isSome found

theorem lacks_of_contains (registry : s.gateway.registry = .builtin) (lazy : s.gateway.config.factory.eagerValidation = false)
    (absent : s.gateway.cache.entry? d.cacheKey = none)
    (populated : ((create d).run s).2.gateway.cache.contains d.cacheKey = true) : s.Lacks d := by
  rw [Cache.contains] at populated
  simp only [create, run_bind, run_lookup] at populated
  rcases Cache.lookup_cases s.gateway.cache d.cacheKey with ⟨-, eq⟩ | ⟨e, -, hit, -⟩ | ⟨p, -, -, -, -, eq⟩ |
    ⟨opened, -, alone, -⟩
  · have after : s.After none ((answer d [] .closed).run s).2 :=
      ((Spares.bind (spares_emit _) fun _ _ => spares_loadFrom d none) s).1
    rw [eq] at populated
    have kept := (congrArg Option.isSome (after.entry_eq d.cacheKey)).symm.trans populated
    rw [absent] at kept
    cases kept
  · rw [absent] at hit
    cases hit
  · rw [eq] at populated
    have kept : (s.gateway.cache.entry? d.cacheKey).isSome = true := populated
    rw [absent] at kept
    cases kept
  · have pending : s.gateway.cache.pending.find? (·.key = d.cacheKey) = none := by simpa using alone
    exact ⟨registry, lazy, opened, absent, pending⟩

theorem run_create_populates (lacks : s.Lacks d) (trusted : d.tier.isShareable = true) (held : s.world.tier? = some tier)
    (online : tier.offline = false) (chosen : Registry.builtin.choose d (tier.offered? d.cacheKey) = .ok b) :
    ((create d).run s).2.gateway.cache.contains d.cacheKey = true ∧
      ∃ tier', ((create d).run s).2.world.tier? = some tier' ∧
        if tier.offered? d.cacheKey = none then tier'.get d.identity d.version = .ok (some (Snapshot.ofTrusted d b.1).encode)
        else tier' = tier := by
  rw [run_create_begin lacks]
  have absent : Cache.entry? (s.gateway.cache.begin d.cacheKey).2 d.cacheKey = none := by
    rw [Cache.begin_snd]
    exact lacks.misses.entry
  have opened : (s.gateway.cache.begin d.cacheKey).2.closed = false := by rw [Cache.begin_snd, lacks.opened]
  have current := Cache.generationOf_begin s.gateway.cache d.cacheKey
  obtain ⟨loaded, left⟩ := run_runLoad_chosen (s := s.withCache (s.gateway.cache.begin d.cacheKey).2)
    (t := (s.gateway.cache.begin d.cacheKey).1) lacks.registry lacks.lazy trusted rfl opened current held online chosen
  exact ⟨contains_runLoad loaded absent opened current, left⟩

theorem isHealthy_of_put {tier' : SharedTier} (built : Registry.builtin.build d.identity d.payload.params = .ok b)
    (small : d.version < 2 ^ 64)
    (put : tier'.get d.identity d.version = .ok (some (Snapshot.ofTrusted d b.1).encode)) : tier'.IsHealthy d := by
  obtain ⟨entry, known, binds, -⟩ := Registry.build_eq_ok.1 built
  have plain : (Snapshot.ofTrusted d b.1).IsPlain := Snapshot.isPlain_bound (Registry.mem_of_get known) binds small ..
  exact ⟨_, ⟨⟨_, put, Snapshot.decode_encode plain⟩, rfl⟩,
    (Snapshot.restores_iff rfl).2 ⟨b, Registry.isSound_builtin.build_toParams built⟩⟩

/-- Whatever an online tier holds, and whatever a gateway has cached but for an entry of the descriptor: a request for a descriptor
that loads leaves an entry if the cache is open and no load of it runs, and then the tier can be restored from, unless it was spoiled.
A spoiled tier stays as it was. -/
theorem create_restores_iff (registry : s.gateway.registry = .builtin) (lazy : s.gateway.config.factory.eagerValidation = false)
    (trusted : d.tier.isShareable = true) (small : d.version < 2 ^ 64)
    (loads : ∃ l, ((Loader.load .builtin d).run.run ⟨.new d.cacheKey, s.gateway.sanitizer⟩).1 = .ok l)
    (held : s.world.tier? = some tier) (online : tier.offline = false) (absent : s.gateway.cache.entry? d.cacheKey = none) :
    (((create d).run s).2.gateway.cache.contains d.cacheKey = true ↔
      s.gateway.cache.closed = false ∧ ∀ p ∈ s.gateway.cache.pending, p.key ≠ d.cacheKey) ∧
    (((create d).run s).2.gateway.cache.contains d.cacheKey = true →
      ∃ tier', ((create d).run s).2.world.tier? = some tier' ∧ (tier'.IsHealthy d ↔ ¬tier.IsSpoiled d) ∧
        (tier.IsSpoiled d → tier' = tier)) := by
  rw [Loader.run_load (fun _ => Registry.isSound_builtin) trusted] at loads
  obtain ⟨l, loaded⟩ := loads
  obtain ⟨own, built, -⟩ := map_eq_ok.1 loaded
  obtain ⟨b, chosen⟩ : ∃ b, Registry.builtin.choose d (tier.offered? d.cacheKey) = .ok b := by
    rcases Registry.builtin.choose_cases d (tier.offered? d.cacheKey) with ⟨-, -, b, -, chosen⟩ | ⟨-, chosen⟩
    · exact ⟨b, chosen⟩
    · exact ⟨own, chosen.trans built⟩
  refine ⟨⟨fun populated => ?_, fun ⟨opened, alone⟩ => ?_⟩, fun populated => ?_⟩
  · obtain ⟨-, -, opened, misses⟩ := lacks_of_contains registry lazy absent populated
    exact ⟨opened, by simpa using misses.pending⟩
  · have pending : s.gateway.cache.pending.find? (·.key = d.cacheKey) = none := by simpa using alone
    exact (run_create_populates ⟨registry, lazy, opened, absent, pending⟩ trusted held online chosen).1
  have lacks := lacks_of_contains registry lazy absent populated
  obtain ⟨-, tier', left, changed⟩ := run_create_populates lacks trusted held online chosen
  refine ⟨tier', left, ?_⟩
  cases offered : tier.offered? d.cacheKey with
  | none =>
    have sound : ¬tier.IsSpoiled d := by
      rintro ⟨snapshot, holds, -⟩
      rw [SharedTier.offered?_eq_some_iff.2 holds] at offered
      cases offered
    rw [offered] at changed chosen
    obtain rfl : own = b := Except.ok.inj (built.symm.trans chosen)
    exact ⟨iff_of_true (isHealthy_of_put built small changed) sound, fun spoiled => absurd spoiled sound⟩
  | some snapshot =>
    rw [if_neg (by simp [offered])] at changed
    subst changed
    exact ⟨SharedTier.isHealthy_iff (SharedTier.offered?_eq_some_iff.1 offered), fun _ => rfl⟩

/-- Bytes that are no snapshot are replaced by one. -/
theorem create_restores_iff_unreadable :
    let d : Descriptor := ⟨"momentum", 1, .predefined, "system"⟩
    let tier : SharedTier := ⟨[(SharedTier.keyFor "momentum" 1, .empty)], false⟩
    let s : Scene := ⟨.new .standard, ⟨some tier, none, 0⟩, []⟩
    s.gateway.registry = .builtin ∧ s.gateway.config.factory.eagerValidation = false ∧ d.tier.isShareable = true ∧
      d.version < 2 ^ 64 ∧ (∃ l, ((Loader.load .builtin d).run.run ⟨.new d.cacheKey, s.gateway.sanitizer⟩).1 = .ok l) ∧
      s.world.tier? = some tier ∧ tier.offline = false ∧ s.gateway.cache.entry? d.cacheKey = none ∧
      ((create d).run s).2.gateway.cache.contains d.cacheKey = true ∧
      ∃ tier', ((create d).run s).2.world.tier? = some tier' ∧ tier'.IsHealthy d := by
  intro d tier s
  obtain ⟨b, built⟩ := exists_of_isOk (by decide +kernel : (Registry.builtin.build d.identity d.payload.params).isOk = true)
  have loads : ∃ l, ((Loader.load .builtin d).run.run ⟨.new d.cacheKey, s.gateway.sanitizer⟩).1 = .ok l := by
    rw [Loader.run_load (fun _ => Registry.isSound_builtin) rfl, built]
    exact ⟨_, rfl⟩
  have unreadable : (Snapshot.decode .empty).isOk = false := by decide +kernel
  have sound : ¬tier.IsSpoiled d := by
    rintro ⟨snapshot, ⟨⟨bytes, found, decodes⟩, -⟩, -⟩
    obtain rfl : ByteArray.empty = bytes := Option.some.inj (Except.ok.inj ((congrArg Except.ok (if_pos rfl).symm).trans found))
    rw [decodes] at unreadable
    cases unreadable
  obtain ⟨contains, heals⟩ := create_restores_iff (s := s) (d := d) rfl rfl rfl (by decide) loads rfl rfl rfl
  have populated := contains.2 ⟨rfl, nofun⟩
  obtain ⟨tier', left, healthy, -⟩ := heals populated
  exact ⟨rfl, rfl, rfl, by decide, loads, rfl, rfl, rfl, populated, tier', left, healthy.2 sound⟩

/-- A snapshot of the content with parameters that cannot be bound stays in the tier. -/
theorem not_create_restores : ¬ ∀ (s : Scene) (d : Descriptor) (tier : SharedTier), s.gateway.registry = .builtin →
    s.gateway.config.factory.eagerValidation = false → d.tier.isShareable = true → d.version < 2 ^ 64 →
    (∃ l, ((Loader.load .builtin d).run.run ⟨.new d.cacheKey, s.gateway.sanitizer⟩).1 = .ok l) →
    s.world.tier? = some tier → tier.offline = false → s.gateway.cache.entry? d.cacheKey = none →
    ((create d).run s).2.gateway.cache.contains d.cacheKey = true →
    ∃ tier', ((create d).run s).2.world.tier? = some tier' ∧ tier'.IsHealthy d := by
  intro always
  let d : Descriptor := ⟨"momentum", 1, .predefined, "system"⟩
  let spoiled : Snapshot := ⟨"momentum", 1, d.contentHash, .predefined, [("rsi_period", .int 500)],
    .trusted .predefined d.contentHash⟩
  let tier : SharedTier := ⟨[(SharedTier.keyFor "momentum" 1, spoiled.encode)], false⟩
  let s : Scene := ⟨.new .standard, ⟨some tier, none, 0⟩, []⟩
  have plain : spoiled.IsPlain := {
    version := by decide
    verdict := ⟨_, _, rfl⟩
    value := ⟨⟨by decide, by decide⟩, trivial⟩
    sorted := ⟨⟨trivial, trivial⟩, List.pairwise_singleton ..⟩
    depth := by decide
    doubles := nofun }
  have holds : tier.Holds d spoiled := ⟨⟨spoiled.encode, congrArg Except.ok (if_pos rfl), Snapshot.decode_encode plain⟩, rfl⟩
  have offered := SharedTier.offered?_eq_some_iff.2 holds
  have refuses : (Registry.builtin.build d.identity spoiled.params).isOk = false := by decide +kernel
  have fails : ∀ b, Registry.builtin.build d.identity spoiled.params ≠ .ok b := by
    intro b built
    rw [built] at refuses
    cases refuses
  obtain ⟨b, built⟩ := exists_of_isOk (by decide +kernel : (Registry.builtin.build d.identity d.payload.params).isOk = true)
  have loads : ∃ l, ((Loader.load .builtin d).run.run ⟨.new d.cacheKey, s.gateway.sanitizer⟩).1 = .ok l := by
    rw [Loader.run_load (fun _ => Registry.isSound_builtin) rfl, built]
    exact ⟨_, rfl⟩
  have chosen : Registry.builtin.choose d (tier.offered? d.cacheKey) = .ok b := by
    rcases Registry.builtin.choose_cases d (tier.offered? d.cacheKey) with ⟨snapshot, taken, b', restored, -⟩ | ⟨-, chosen⟩
    · obtain rfl : spoiled = snapshot := Option.some.inj (offered.symm.trans taken)
      exact absurd restored (fails b')
    · exact chosen.trans built
  have lacks : s.Lacks d := ⟨rfl, rfl, rfl, Cache.misses_new _ _⟩
  obtain ⟨populated, tier', left, same⟩ := run_create_populates lacks rfl rfl rfl chosen
  rw [if_neg (by simp [offered])] at same
  subst same
  obtain ⟨tier', left', healthy⟩ := always s d tier rfl rfl rfl (by decide) loads rfl rfl rfl populated
  obtain rfl : tier = tier' := Option.some.inj (left.symm.trans left')
  exact (SharedTier.isHealthy_iff holds).1 healthy ⟨spoiled, holds, fun restores =>
    ((Snapshot.restores_iff rfl).1 restores).elim fails⟩

end Act
end StrategyHost
