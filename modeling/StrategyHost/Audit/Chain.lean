import StrategyHost.Audit.Record
import StrategyHost.Digest.Sha256

/-! # The chain of sealed records

A `Sealed` record carries its place in the chain, the hash of the record before it and its own hash, taken
over the place, the hash before it and the JSON text of the record. `verifyChain` checks places, links and
hashes of a chain from its first record on.

Places are words, and the place behind the last of them is the first one again. -/

namespace StrategyHost.Audit
open Json (Decoder)

/-- The hash that the first record of a chain follows. -/
def genesisHash : String := String.ofList (List.replicate 64 '0')

structure Sealed where
  sequence : UInt64
  record : Record
  prevHash : String
  hash : String
deriving Inhabited

/-- The bytes that a record's hash is taken over. -/
def sealedBytes (sequence : UInt64) (prevHash : String) (r : Record) : List UInt8 :=
  Sha256.bigEndian sequence.toNat 8 ++ utf8Bytes prevHash ++ utf8Bytes r.toJson.compact

def chainHash (sequence : UInt64) (prevHash : String) (r : Record) : String :=
  Sha256.hex (sealedBytes sequence prevHash r)

namespace Sealed

/-- Seals a record behind the record whose hash is `prevHash`. -/
def ofRecord (sequence : UInt64) (prevHash : String) (r : Record) : Sealed :=
  ⟨sequence, r, prevHash, chainHash sequence prevHash r⟩

/-- Whether the stored hash is the one of the contents. -/
def isIntact (s : Sealed) : Bool := chainHash s.sequence s.prevHash s.record == s.hash

def toJson (s : Sealed) : Json :=
  .obj [("sequence", .ofNat s.sequence.toNat), ("record", s.record.toJson), ("prev_hash", .str s.prevHash),
    ("hash", .str s.hash)]

def decoder : Decoder Sealed := .record <|
  (fun n => Sealed.mk (.ofNat n)) <$> .required "sequence" (.nat 64) <*> .required "record" Record.decoder
    <*> .required "prev_hash" .string <*> .required "hash" .string

end Sealed

/-- Seals records one after another, the first with `sequence` behind `prevHash`. -/
def sealAll (sequence : UInt64) (prevHash : String) : List Record → List Sealed
  | [] => []
  | r :: rs =>
    let s := Sealed.ofRecord sequence prevHash r
    s :: sealAll (sequence + 1) s.hash rs

inductive Break where
  | sequenceGap | notAtGenesis | brokenLink | hashMismatch
deriving DecidableEq, Repr

def Break.reason : Break → String
  | sequenceGap => "sequence gap"
  | notAtGenesis => "first record does not start at genesis"
  | brokenLink => "prev_hash does not match previous record"
  | hashMismatch => "record hash mismatch"

/-- Why a chain is not accepted: the record of a sequence number breaks it. -/
inductive ChainFault where
  | broken (sequence : Nat) (why : Break)
deriving DecidableEq, Repr

/-- What the records before it ask of a record: nothing of the first, else its place and its link. -/
structure Expected where
  sequence : UInt64
  prevHash : String

def findBreak (expected : Option Expected) (s : Sealed) : Option Break :=
  match expected with
  | some e =>
    if s.sequence ≠ e.sequence then some .sequenceGap
    else if s.prevHash ≠ e.prevHash then some .brokenLink
    else if s.isIntact then none
    else some .hashMismatch
  | none =>
    if s.sequence = 0 ∧ s.prevHash ≠ genesisHash then some .notAtGenesis
    else if s.isIntact then none
    else some .hashMismatch

/-- Checks the records behind those that lead to `expected`. -/
def verifyFrom (expected : Option Expected) : List Sealed → Except ChainFault Unit
  | [] => .ok ()
  | s :: rest =>
    match findBreak expected s with
    | some why => .error (.broken s.sequence.toNat why)
    | none => verifyFrom (some ⟨s.sequence + 1, s.hash⟩) rest

/-- Checks a chain; the number of its records when it holds. -/
def verifyChain (records : List Sealed) : Except ChainFault Nat :=
  (verifyFrom none records).map fun _ => records.length

end StrategyHost.Audit
