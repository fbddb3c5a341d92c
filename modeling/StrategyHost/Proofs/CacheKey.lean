import StrategyHost.Descriptor
import StrategyHost.Proofs.Digest.Collision
import StrategyHost.Proofs.Json.Writing

/-! # What a cache key tells of a build

A cache key stands for the text that the content hash is taken over (`Descriptor.content`). The text of a predefined or a
configured build begins with its tier, that of a dynamic build is its source as it was submitted, so an untrusted source may
be spelled like the content of a trusted build (`Descriptor.Poses`). Main statements: `cacheKey_eq_iff_payload`, which builds
share a key, and `cacheKey_separates_iff`, a key separates tiers and payloads just where no source poses. -/

namespace StrategyHost

open Sha256 (CollisionFree)

/-- Whether all doubles among the parameters are finite, as those of every text are. -/
def Payload.isFinite : Payload → Bool
  | .configured params => Json.fieldsFinite params
  | _ => true

theorem Params.canonical_injective {p q : Params} (hp : Json.fieldsFinite p = true) (hq : Json.fieldsFinite q = true)
    (h : p.canonical = q.canonical) : p = q := by
  have docs : Json.obj p = Json.obj q := Json.compact_injective hp hq h
  exact Json.obj.inj docs

namespace Descriptor
variable {a b d t : Descriptor}

/-- The text whose bytes are hashed. -/
def content (d : Descriptor) : String :=
  match d.payload with
  | .predefined => "predefined:" ++ d.identity
  | .configured params => "configured:" ++ d.identity ++ ":" ++ params.canonical
  | .dynamic source => source

/-- The bytes that the content hash of a build is taken over. -/
def hashed (d : Descriptor) : List UInt8 := contentBytes d.identity d.payload

theorem hashed_eq (d : Descriptor) : d.hashed = utf8Bytes d.content := by
  unfold hashed content contentBytes
  cases d.payload <;> rfl

/-- Whether `d` is an untrusted build whose source is spelled like the content of the trusted build `t`. -/
def Poses (d t : Descriptor) : Prop := t.tier ≠ .dynamic ∧ d.payload = .dynamic t.content

theorem cacheKey_eq_iff_content (free : CollisionFree [a.hashed, b.hashed]) :
    a.cacheKey = b.cacheKey ↔ a.identity = b.identity ∧ a.version = b.version ∧ a.content = b.content := by
  simp only [cacheKey, CacheKey.mk.injEq]
  refine and_congr_right fun _ => and_congr_right fun _ => ⟨fun h => ?_, fun h => ?_⟩
  · have bytes := free.eq_of_hex (List.mem_cons_self ..) (List.mem_cons_of_mem _ (List.mem_cons_self ..)) h
    rw [hashed_eq, hashed_eq] at bytes
    exact utf8Bytes_injective bytes
  · show Sha256.hex a.hashed = Sha256.hex b.hashed
    rw [hashed_eq, hashed_eq, h]

theorem content_predefined_ne_configured {params : Params} (ha : a.payload = .predefined)
    (hb : b.payload = .configured params) : a.content ≠ b.content := by
  intro h
  have chars := congrArg String.toList h
  simp [content, ha, hb] at chars

theorem content_configured_inj {p q : Params} (ha : a.payload = .configured p) (hb : b.payload = .configured q)
    (identity : a.identity = b.identity) (h : a.content = b.content) : p.canonical = q.canonical := by
  simp only [content, ha, hb, identity] at h
  have chars := congrArg String.toList h
  simp only [String.toList_append, List.append_cancel_left_eq] at chars
  exact String.toList_inj.1 chars

theorem poses_of_content {s : String} (hd : d.payload = .dynamic s) (ht : t.tier ≠ .dynamic)
    (h : d.content = t.content) : d.Poses t := by
  refine ⟨ht, ?_⟩
  rw [← h, hd, content, hd]

/-- Builds of one name with one content have one payload, unless one of them is a source that poses as the other. -/
theorem payload_eq_or_poses (ha : a.payload.isFinite = true) (hb : b.payload.isFinite = true)
    (identity : a.identity = b.identity) (h : a.content = b.content) :
    a.payload = b.payload ∨ a.Poses b ∨ b.Poses a := by
  cases hpa : a.payload with
  | predefined =>
    cases hpb : b.payload with
    | predefined => exact .inl rfl
    | configured q => exact absurd h (content_predefined_ne_configured hpa hpb)
    | dynamic s => exact .inr (.inr (poses_of_content hpb (by simp [tier, hpa, Payload.tier]) h.symm))
  | configured p =>
    cases hpb : b.payload with
    | predefined => exact absurd h.symm (content_predefined_ne_configured hpb hpa)
    | configured q =>
      rw [hpa] at ha
      rw [hpb] at hb
      exact .inl (congrArg _ (Params.canonical_injective ha hb (content_configured_inj hpa hpb identity h)))
    | dynamic s => exact .inr (.inr (poses_of_content hpb (by simp [tier, hpa, Payload.tier]) h.symm))
  | dynamic s =>
    cases hpb : b.payload with
    | predefined => exact .inr (.inl (poses_of_content hpa (by simp [tier, hpb, Payload.tier]) h))
    | configured q => exact .inr (.inl (poses_of_content hpa (by simp [tier, hpb, Payload.tier]) h))
    | dynamic s' =>
      simp only [content, hpa, hpb] at h
      exact .inl (congrArg _ h)

theorem Poses.content_eq (h : d.Poses t) : d.content = t.content := by
  rw [content, h.2]

/-- Which builds share a key: those of one name and version with one payload, and a source with the build it poses as. -/
theorem cacheKey_eq_iff_payload (ha : a.payload.isFinite = true) (hb : b.payload.isFinite = true)
    (free : CollisionFree [a.hashed, b.hashed]) : a.cacheKey = b.cacheKey ↔
      a.identity = b.identity ∧ a.version = b.version ∧ (a.payload = b.payload ∨ a.Poses b ∨ b.Poses a) := by
  rw [cacheKey_eq_iff_content free]
  refine and_congr_right fun identity => and_congr_right fun _ => ⟨payload_eq_or_poses ha hb identity, ?_⟩
  rintro (payload | poses | poses)
  · simp only [content, payload, identity]
  · exact poses.content_eq
  · exact poses.content_eq.symm

/-- A key tells tier and payload of two builds just where neither, with name and version of the other, poses as it. -/
theorem cacheKey_separates_iff (ha : a.payload.isFinite = true) (hb : b.payload.isFinite = true)
    (free : CollisionFree [a.hashed, b.hashed]) :
    (a.cacheKey = b.cacheKey → a.tier = b.tier ∧ a.payload = b.payload) ↔
      ¬ (a.identity = b.identity ∧ a.version = b.version ∧ (a.Poses b ∨ b.Poses a)) := by
  rw [cacheKey_eq_iff_payload ha hb free]
  constructor
  · rintro separates ⟨identity, version, poses⟩
    have tiers := (separates ⟨identity, version, .inr poses⟩).1
    rcases poses with ⟨trusted, dynamic⟩ | ⟨trusted, dynamic⟩
    · exact trusted (by rw [← tiers, tier, dynamic]; rfl)
    · exact trusted (by rw [tiers, tier, dynamic]; rfl)
  · rintro noPose ⟨identity, version, payload | poses⟩
    · exact ⟨congrArg Payload.tier payload, payload⟩
    · exact absurd ⟨identity, version, poses⟩ noPose

/-- A set of parameters and a source, whose keys differ. -/
theorem cacheKey_separates_configured_dynamic :
    let a : Descriptor := ⟨"momentum", 1, .configured [("fast", .int 9)], "system"⟩
    let b : Descriptor := ⟨"momentum", 1, .dynamic "(module)", "alice"⟩
    CollisionFree [a.hashed, b.hashed] ∧ ¬ (a.identity = b.identity ∧ a.version = b.version ∧ (a.Poses b ∨ b.Poses a)) ∧
      (a.cacheKey = b.cacheKey → a.tier = b.tier ∧ a.payload = b.payload) := by
  intro a b
  have free : CollisionFree [a.hashed, b.hashed] := by decide +kernel
  have noPose : ¬ (a.identity = b.identity ∧ a.version = b.version ∧ (a.Poses b ∨ b.Poses a)) := by
    rintro ⟨-, -, ⟨-, poses⟩ | ⟨-, poses⟩⟩
    · exact Payload.noConfusion poses
    · exact absurd (Payload.dynamic.inj poses) (by decide +kernel)
  exact ⟨free, noPose, (cacheKey_separates_iff (by decide +kernel) (by decide +kernel) free).2 noPose⟩

/-- The source `predefined:momentum` has the key of the predefined build `momentum`. -/
theorem cacheKey_not_separating : ¬ ∀ a b : Descriptor, a.payload.isFinite = true → b.payload.isFinite = true →
    CollisionFree [a.hashed, b.hashed] → a.cacheKey = b.cacheKey → a.tier = b.tier ∧ a.payload = b.payload := by
  intro separates
  have tiers := (separates ⟨"momentum", 1, .predefined, "system"⟩ ⟨"momentum", 1, .dynamic "predefined:momentum", "system"⟩
    rfl rfl (by decide +kernel) (by decide +kernel)).1
  exact absurd tiers (by decide)

end Descriptor

end StrategyHost
