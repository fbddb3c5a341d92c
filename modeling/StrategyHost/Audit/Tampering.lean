import StrategyHost.Audit.Chain
import StrategyHost.Json.Pointer

/-! # Tampering

What can be done to a chain that lies open: records may be removed, swapped, repeated or changed, and the hash of a
record may be taken again. An `Edit` works on the documents of the chain, as whoever edits a file does. -/

namespace StrategyHost.Audit

inductive Edit where
  | remove (index : Nat)
  | swap (i j : Nat)
  | duplicate (index : Nat)
  | set (index : Nat) (pointer : String) (value : Json)
  | reseal (index : Nat)

namespace Sealed

/-- The record with the hash that its own contents give. -/
def resealed (s : Sealed) : Sealed := ofRecord s.sequence s.prevHash s.record

/-- A record with one part of its document replaced. -/
def edit (s : Sealed) (pointer : String) (value : Json) : Except Json.Fault Sealed :=
  Json.decodeValue decoder (Json.setAt pointer value s.toJson.sorted)

end Sealed

/-- Edits a chain. Places where there is no record are left alone. -/
def Edit.apply (chain : List Json) : Edit → Except Json.Fault (List Json)
  | remove i => .ok (chain.eraseIdx i)
  | swap i j =>
    match chain[i]?, chain[j]? with
    | some a, some b => .ok ((chain.set i b).set j a)
    | _, _ => .ok chain
  | duplicate i =>
    match chain[i]? with
    | some a => .ok (chain.insertIdx i a)
    | none => .ok chain
  | set i pointer value => .ok (chain.modify i (Json.setAt pointer value))
  | reseal i =>
    match chain[i]? with
    | some a => (Json.decodeValue Sealed.decoder a).map fun s => chain.set i s.resealed.toJson.sorted
    | none => .ok chain

end StrategyHost.Audit
