import StrategyHost.Load.Loader
import StrategyHost.Proofs.Schema

/-! # What a load of a trusted strategy comes to

A load on a tracker of its own takes no illegal step, so that a trusted strategy is loaded just when its registry builds it
from the parameters that are meant: those of its descriptor (`Loader.run_load`) or those of a snapshot
(`Loader.run_restore`). The verdict is the same in both cases. -/

namespace StrategyHost

/-! ### Building from a registry -/

namespace Registry
variable {r : Registry} {identity : String} {e : Entry} {params : Params} {bound : Bound} {strategy : Strategy}

def IsSound (r : Registry) : Prop := ∀ e ∈ r, e.schema.IsSound

theorem isSound_builtin : builtin.IsSound := by
  have momentum : momentumEntry.schema.IsSound := ⟨by decide, by decide, by decide⟩
  have crossover : crossoverEntry.schema.IsSound := ⟨by decide, by decide, by decide⟩
  have reversion : reversionEntry.schema.IsSound := ⟨by decide, by decide, by decide⟩
  simp [IsSound, builtin, momentum, crossover, reversion]

theorem mem_of_get (h : r.get identity = .ok e) : e ∈ r := by
  rw [get] at h
  cases found : r.find? (·.identity == identity) with
  | none => simp [found] at h
  | some e' =>
    simp only [found, Except.ok.injEq] at h
    exact h ▸ List.mem_of_find?_eq_some found

theorem build_eq_ok : r.build identity params = .ok (bound, strategy) ↔
    ∃ e, r.get identity = .ok e ∧ e.schema.bind params = .ok bound ∧ e.build bound = .ok strategy := by
  simp only [build, bind_eq_ok]
  constructor
  · rintro ⟨e, known, b, binds, s, builds, done⟩
    cases done
    exact ⟨e, known, binds, builds⟩
  · rintro ⟨e, known, binds, builds⟩
    exact ⟨e, known, bound, binds, strategy, builds, rfl⟩

theorem IsSound.build_toParams (sound : r.IsSound) (h : r.build identity params = .ok (bound, strategy)) :
    r.build identity bound.toParams = .ok (bound, strategy) := by
  obtain ⟨e, known, binds, builds⟩ := build_eq_ok.1 h
  exact build_eq_ok.2 ⟨e, known, Schema.bind_toParams (sound e (mem_of_get known)) binds, builds⟩

end Registry

/-! ### Loads -/

/-- The parameters that a payload names; a built-in strategy as it is has none. -/
def Payload.params : Payload → Params
  | predefined => []
  | configured params => params
  | dynamic _ => []

def Loaded.trusted (d : Descriptor) (b : Bound × Strategy) : Loaded :=
  ⟨.native b.2, .trusted d.tier d.contentHash, some b.1.toParams⟩

namespace Loader
variable {r : Registry} {d : Descriptor} {params : Params} {verdict : Verdict} {snapshot : Snapshot}

theorem run_build (e : Entry) (b : Bound) (verdict : Verdict) (k : CacheKey) (past : List LoadState) (s : Sanitizer) :
    ((build e b verdict).run.run ⟨⟨k, .accepted, past⟩, s⟩).1 =
      (e.build b).map fun strategy => ⟨.native strategy, verdict, some b.toParams⟩ := by
  rw [build]
  cases e.build b with
  | error f => rfl
  | ok strategy => rfl

theorem run_bindAndBuild (k : CacheKey) (s : Sanitizer) : ((bindAndBuild r d params verdict).run.run ⟨.new k, s⟩).1 =
    (r.build d.identity params).map fun b => ⟨.native b.2, verdict, some b.1.toParams⟩ := by
  simp only [bindAndBuild, Registry.build]
  cases r.get d.identity with
  | error e => rfl
  | ok entry =>
    simp only [Bind.bind, Except.bind]
    cases entry.schema.bind params with
    | error e => rfl
    | ok b =>
      dsimp only
      refine (run_build entry b verdict k _ s).trans ?_
      cases entry.build b <;> rfl

/-- A load of a trusted strategy binds the parameters that its descriptor names; one that names none gets the defaults of its
schema, which a sound schema binds. -/
theorem run_load (sound : d.tier = .predefined → r.IsSound) (trusted : d.tier.isShareable = true) (s : Sanitizer) :
    ((load r d).run.run ⟨.new d.cacheKey, s⟩).1 = (r.build d.identity d.payload.params).map (.trusted d) := by
  obtain ⟨identity, version, payload, actor⟩ := d
  cases payload with
  | predefined =>
    simp only [load, loadPredefined, Registry.build]
    cases known : r.get identity with
    | error e => rfl
    | ok entry =>
      simp only [Bind.bind, Except.bind, Payload.params, Schema.bind_nothing (sound rfl entry (Registry.mem_of_get known))]
      refine (run_build entry _ _ _ _ s).trans ?_
      cases entry.build entry.schema.defaults <;> rfl
  | configured params => exact run_bindAndBuild _ s
  | dynamic source => cases trusted

/-- A snapshot of the same content gives its parameters in place of those of the descriptor, and nothing else. -/
theorem run_restore (same : snapshot.contentHash = d.contentHash) (s : Sanitizer) :
    ((restore r d snapshot).run.run ⟨.new d.cacheKey, s⟩).1 = (r.build d.identity snapshot.params).map (.trusted d) := by
  rw [restore, restoreConfigured, if_neg (not_not.2 same)]
  exact run_bindAndBuild _ s

end Loader

end StrategyHost
