import StrategyHost.Descriptor
import StrategyHost.Json.Bytes

/-! # Snapshots

A `Snapshot` is what is kept of a loaded strategy outside the process: enough to bind its parameters again, and
the hash that ties it to a descriptor. -/

namespace StrategyHost
open Json (Decoder)

structure Snapshot where
  identity : String
  version : Nat
  contentHash : String
  tier : Tier
  params : Params
  verdict : Verdict

namespace Snapshot

def toJson (s : Snapshot) : Json :=
  .obj [("identity", .str s.identity), ("version", .ofNat s.version), ("content_hash", .str s.contentHash),
    ("tier", .str s.tier.name), ("params", s.params.toJson), ("verdict", s.verdict.toJson)]

def decoder : Decoder Snapshot := .record <|
  Snapshot.mk <$> .required "identity" .string <*> .required "version" (.nat 64)
    <*> .required "content_hash" .string <*> .required "tier" Tier.decoder
    <*> .required "params" Params.decoder <*> .required "verdict" Verdict.decoder

def encode (s : Snapshot) : ByteArray := s.toJson.compact.toUTF8

def decode (bytes : ByteArray) : Except Json.Fault Snapshot := Json.decodeBytes decoder bytes.data.toList

end Snapshot

end StrategyHost
