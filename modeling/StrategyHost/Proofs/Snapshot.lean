import StrategyHost.Proofs.Json.Bytes
import StrategyHost.Proofs.Verdict
import StrategyHost.Snapshot

/-! # Snapshots read back

A snapshot of a trusted strategy comes back from its bytes (`Snapshot.decode_encode`). -/

namespace StrategyHost
open Json (Decoder docOf)

theorem Tier.find?_all (t : Tier) : all.find? (·.1 == t.name) = some (t.name, t) := by cases t <;> rfl

namespace Snapshot
variable {s : Snapshot}

/-- A snapshot whose parts come back from a document: the version has 64 bits, the verdict is that of a trusted tier, and the
parameters are an untyped document that is not nested too deeply and whose doubles are read back as themselves. -/
structure IsPlain (s : Snapshot) : Prop where
  version : s.version < 2 ^ 64
  verdict : ∃ tier hash, s.verdict = .trusted tier hash
  value : (Json.obj s.params).IsValue
  sorted : (Json.obj s.params).IsSorted
  depth : 1 + (Json.obj s.params).depth ≤ Json.maxDepth
  doubles : ∀ x ∈ (Json.obj s.params).doubles, Json.reread x = some x

theorem IsPlain.isPlaced (h : s.IsPlain) : s.verdict.IsPlaced := by
  obtain ⟨tier, hash, verdict⟩ := h.verdict
  rw [verdict]
  exact fun _ => nofun

theorem IsPlain.isValue (h : s.IsPlain) : s.toJson.IsValue := by
  have version := h.version
  refine ⟨trivial, ?_, trivial, trivial, h.value, Verdict.isValue h.isPlaced, trivial⟩
  simp only [Json.ofNat, Json.IsValue]
  omega

theorem decoder_docOf (h : s.IsPlain) : decoder (docOf 0 s.toJson) = .ok s := by
  have params : Params.decoder (docOf 1 s.params.toJson) = .ok s.params :=
    Json.stringMap_docOf h.sorted (by decide) h.depth h.doubles
  have verdict : Verdict.decoder (docOf 1 s.verdict.toJson) = .ok s.verdict := Verdict.decoder_docOf h.isPlaced (by decide)
  rw [decoder, toJson, Json.record_docOf (by decide) rfl (by decide)]
  simp only [Json.Fields.read_seq, Json.Fields.read_map, Json.Fields.read_required]
  simp [Tier.decoder, params, verdict, Json.string_docOf, Json.nat_docOf h.version, Json.enum_docOf (Tier.find?_all _)]

/-- A snapshot comes back from its bytes. -/
theorem decode_encode (h : s.IsPlain) : decode s.encode = .ok s := by
  rw [decode, encode, Json.decodeBytes_toUTF8, Json.decodeText_compact _ h.isValue, decoder_docOf h]

end Snapshot

end StrategyHost
