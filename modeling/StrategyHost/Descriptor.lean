import StrategyHost.Verdict
import StrategyHost.Digest.Sha256

/-! # Descriptors

A `Descriptor` names one build of a strategy: an identity, a version and the payload of its trust tier. Its
`cacheKey` holds a hash of the payload, so that another payload is another key. -/

namespace StrategyHost
open Json (Decoder)

/-- Foreign parameters, ascending by name. -/
abbrev Params := List (String × Json)

namespace Params

def decoder : Decoder Params := .stringMap .json

def toJson (p : Params) : Json := .obj p

/-- The text that a hash of the parameters is taken over. -/
def canonical (p : Params) : String := p.toJson.compact

def get? (p : Params) (name : String) : Option Json := (p.find? (·.1 == name)).map (·.2)

end Params

inductive Payload where
  | predefined
  | configured (params : Params)
  | dynamic (source : String)
deriving Inhabited

def Payload.tier : Payload → Tier
  | predefined => .predefined
  | configured _ => .configured
  | dynamic _ => .dynamic

/-- What identifies a build in a cache. -/
structure CacheKey where
  identity : String
  version : Nat
  contentHash : String
deriving DecidableEq, Repr, Inhabited

namespace CacheKey

/-- The first `n` bytes of a text, or all of it if they do not end at a character. -/
def firstBytes (n : Nat) (cs : List Char) : Option (List Char) :=
  match n, cs with
  | 0, _ => some []
  | _, [] => none
  | n, c :: cs => if c.utf8Size ≤ n then (firstBytes (n - c.utf8Size) cs).map (c :: ·) else none

protected def toString (k : CacheKey) : String :=
  let short := match firstBytes 12 k.contentHash.toList with
    | some cs => String.ofList cs
    | none => k.contentHash
  s!"{k.identity}@{k.version}#{short}"

def toJson (k : CacheKey) : Json :=
  .obj [("identity", .str k.identity), ("version", .ofNat k.version), ("content_hash", .str k.contentHash)]

def decoder : Decoder CacheKey := .record <|
  CacheKey.mk <$> .required "identity" .string <*> .required "version" (.nat 64)
    <*> .required "content_hash" .string

end CacheKey

structure Descriptor where
  identity : String
  version : Nat
  payload : Payload
  actor : String
deriving Inhabited

namespace Descriptor

def tier (d : Descriptor) : Tier := d.payload.tier

/-- The bytes that the content hash is taken over. Those of the trusted tiers begin with the tier. -/
def contentBytes (identity : String) : Payload → List UInt8
  | .predefined => utf8Bytes ("predefined:" ++ identity)
  | .configured params => utf8Bytes ("configured:" ++ identity ++ ":" ++ params.canonical)
  | .dynamic source => utf8Bytes source

def contentHash (d : Descriptor) : String := Sha256.hex (contentBytes d.identity d.payload)

def cacheKey (d : Descriptor) : CacheKey := ⟨d.identity, d.version, d.contentHash⟩

end Descriptor

end StrategyHost
