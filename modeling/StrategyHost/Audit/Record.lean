import StrategyHost.Json.Decoder
import StrategyHost.Instant

/-! # Audit records

An `Audit.Event` is something a reviewer must be able to see; an `Audit.Record` is an event with the time at
which it was recorded. -/

namespace StrategyHost.Audit
open Json (Decoder Fields)

inductive EventKind where
  | loadAttempt | permissionDenied | resourceLimitExceeded | validationRejected | cacheDegraded | invalidated
deriving DecidableEq, Repr, Inhabited

namespace EventKind

def all : List (String × EventKind) :=
  [("LoadAttempt", loadAttempt), ("PermissionDenied", permissionDenied),
   ("ResourceLimitExceeded", resourceLimitExceeded), ("ValidationRejected", validationRejected),
   ("CacheDegraded", cacheDegraded), ("Invalidated", invalidated)]

def name : EventKind → String
  | loadAttempt => "LoadAttempt"
  | permissionDenied => "PermissionDenied"
  | resourceLimitExceeded => "ResourceLimitExceeded"
  | validationRejected => "ValidationRejected"
  | cacheDegraded => "CacheDegraded"
  | invalidated => "Invalidated"

/-- Events that a reviewer must see even when little else is logged. -/
def isSecurity : EventKind → Bool
  | permissionDenied | resourceLimitExceeded | validationRejected => true
  | _ => false

end EventKind

def systemActor : String := "system"

/-- What happened, to which strategy and on whose behalf. -/
structure Event where
  kind : EventKind
  identity : String
  version : Nat
  actor : String
  detail : Json
deriving Inhabited

/-- An event with its details, whose fields are kept ascending. -/
def Event.make (kind : EventKind) (identity : String) (version : Nat) (actor : String)
    (detail : List (String × Json)) : Event :=
  ⟨kind, identity, version, actor, (Json.obj detail).sorted⟩

structure Record where
  timestamp : Instant
  actor : String
  identity : String
  version : Nat
  eventType : EventKind
  detail : Json
deriving Inhabited

def Event.recordAt (e : Event) (t : Instant) : Record := ⟨t, e.actor, e.identity, e.version, e.kind, e.detail⟩

namespace Record

def toJson (r : Record) : Json :=
  .obj [("timestamp", r.timestamp.toJson), ("actor", .str r.actor), ("identity", .str r.identity),
    ("version", .ofNat r.version), ("event_type", .str r.eventType.name), ("detail", r.detail)]

def decoder : Decoder Record := .record <|
  Record.mk <$> .required "timestamp" Instant.decoder <*> .required "actor" .string <*> .required "identity" .string
    <*> .required "version" (.nat 64) <*> .required "event_type" (.enum EventKind.all)
    <*> .required "detail" .json

end Record

structure Filter where
  identity : Option String
  eventType : Option EventKind
  since : Option Instant
  limit : Option Nat
deriving Inhabited

namespace Filter

def admits (f : Filter) (r : Record) : Bool :=
  f.identity.all (r.identity == ·) && f.eventType.all (r.eventType = ·) && f.since.all (·.le r.timestamp)

/-- The matching records, at most as many as the limit. -/
def select (f : Filter) (rs : List Record) : List Record :=
  let found := rs.filter f.admits
  match f.limit with
  | some n => found.take n
  | none => found

end Filter

end StrategyHost.Audit
