import StrategyHost.Audit.Lines
import StrategyHost.Directory

/-! # The audit logger

Producers put records into a bounded queue and never wait: a full queue drops its oldest record. One writer
takes records from the queue in order, seals them and appends them to the trail. A record that the trail
refuses stays at the head and is tried again before anything behind it is written.

A `Logger` moves by the steps of `Step`; `settle`, `flush` and `shutdown` are runs of such steps. Each step takes a call, or a piece
of the writer's work, from its beginning to its end; what others may do in between is told by `Move` in
`StrategyHost.Audit.Interleaving`. -/

namespace StrategyHost.Audit
open Json (Decoder Fields)

structure Config where
  queueCapacity : Nat
  logPath : Option String
  retryBackoffMs : Nat
  maxRetries : Nat
  enqueueAttempts : Nat
deriving DecidableEq, Repr

namespace Config

def standard : Config := ⟨4096, none, 50, 5, 3⟩

instance : Inhabited Config := ⟨standard⟩

def toJson (c : Config) : Json :=
  .obj [("queue_capacity", .ofNat c.queueCapacity),
    ("log_path", match c.logPath with | some p => .str p | none => .null),
    ("retry_backoff_ms", .ofNat c.retryBackoffMs), ("max_retries", .ofNat c.maxRetries),
    ("enqueue_attempts", .ofNat c.enqueueAttempts)]

def fields : Fields Config :=
  Config.mk <$> .withDefault "queue_capacity" standard.queueCapacity (.nat 64)
    <*> .withDefault "log_path" none (Decoder.option .string)
    <*> .withDefault "retry_backoff_ms" standard.retryBackoffMs (.nat 64)
    <*> .withDefault "max_retries" standard.maxRetries (.nat 32)
    <*> .withDefault "enqueue_attempts" standard.enqueueAttempts (.nat 64)

def decoder : Decoder Config := .record fields

end Config

inductive AuditError where
  | io (e : FileError)
  | unreadable (fault : Json.Fault)
  | sink (text : String)
  | chain (fault : ChainFault)
  | closed
deriving Repr

namespace AuditError

def broken (sequence : Nat) (why : Break) : String :=
  s!"hash chain broken at sequence {sequence}: {why.reason}"

/-- The message of an error; what a library says about a file or a document is left out. -/
def message : AuditError → String
  | io e => s!"I/O error: {e.message}"
  | unreadable _ => "serialization error"
  | sink text => s!"sink error: {text}"
  | chain (.broken n why) => broken n why
  | closed => "audit logger is shut down"

def name : AuditError → String
  | io _ => "Io"
  | unreadable _ => "Serialization"
  | sink _ => "Sink"
  | chain _ => "ChainBroken"
  | closed => "Closed"

/-- A report for a caller. What a library says about a file or a document is left out. -/
def toJson (e : AuditError) : Json :=
  let message := ("message", Json.str e.message)
  match e with
  | unreadable f => f.report e.name
  | io _ => .obj [("error", .str e.name)]
  | chain (.broken n _) => .obj [("error", .str e.name), ("sequence", .ofNat n), message]
  | _ => .obj [("error", .str e.name), message]

end AuditError

/-- Where sealed records are kept. The next `failing` appends are refused. -/
structure Trail where
  records : List Sealed
  failing : Nat
deriving Inhabited

structure Logger where
  capacity : Nat
  attempts : Nat
  maxRetries : Nat
  trail : Trail
  queue : List Record
  /-- A sealed record that the trail has refused. -/
  head : Option Sealed
  nextSequence : UInt64
  prevHash : String
  dropped : Nat
  written : Nat
  lost : Nat
  closed : Bool
deriving Inhabited

namespace Logger

def start (config : Config) (trail : Trail) : Logger :=
  let (sequence, prevHash) := match trail.records.getLast? with
    | some last => (last.sequence + 1, last.hash)
    | none => (0, genesisHash)
  { capacity := max config.queueCapacity 1, attempts := max config.enqueueAttempts 1,
    maxRetries := config.maxRetries, trail := trail, queue := [], head := none, nextSequence := sequence,
    prevHash := prevHash, dropped := 0, written := 0, lost := 0, closed := false }

/-- A logger that continues the chain in the text of a file. -/
def ofText (config : Config) (text : String) : Except AuditError Logger :=
  ((readLines text).mapError .unreadable).map fun records => start config ⟨records, 0⟩

/-- The lines of the records that are not yet in an earlier state of the logger. -/
def linesSince (l earlier : Logger) : String :=
  String.join ((l.trail.records.drop earlier.trail.records.length).map lineOf)

/-- One try to put a record into the queue: a full queue loses its oldest record instead. -/
def offer (l : Logger) (r : Record) : Bool × Logger :=
  if l.queue.length < l.capacity then (true, { l with queue := l.queue ++ [r] })
  else
    match l.queue with
    | [] => (false, l)
    | _ :: rest => (false, { l with queue := rest, dropped := l.dropped + 1 })

/-- At most `n` tries to put a record into the queue; if none succeeds the record itself is dropped. -/
def enqueue (l : Logger) (r : Record) : Nat → Logger
  | 0 => { l with dropped := l.dropped + 1 }
  | n + 1 =>
    match l.offer r with
    | (true, l) => l
    | (false, l) => l.enqueue r n

/-- Takes a record from a producer, whom nobody interrupts. -/
def record (l : Logger) (r : Record) : Logger :=
  if l.closed then { l with dropped := l.dropped + 1 } else l.enqueue r l.attempts

def retryHead (l : Logger) : Logger :=
  match l.head with
  | none => l
  | some s =>
    if l.trail.failing = 0 then
      { l with trail := ⟨l.trail.records ++ [s], 0⟩, head := none, nextSequence := l.nextSequence + 1,
               prevHash := s.hash, written := l.written + 1 }
    else { l with trail := { l.trail with failing := l.trail.failing - 1 } }

/-- Seals the oldest queued record, unless a refused one is waiting, and tries to append it. -/
def take (l : Logger) : Logger :=
  match l.head, l.queue with
  | none, r :: rest => { l with queue := rest, head := some (.ofRecord l.nextSequence l.prevHash r) }.retryHead
  | _, _ => l

/-- What moves a logger: a producer, the writer, the state of the trail, or the end. -/
inductive Step where
  | record (r : Record)
  | take
  | retry
  | failNext (n : Nat)
  | close
  | abandon

/-- Gives up what has not been written. No record comes between the count and the end of the queue. -/
def abandon (l : Logger) : Logger :=
  match l.head with
  | none => l
  | some _ => { l with head := none, queue := [], lost := l.lost + 1 + l.queue.length }

def step (l : Logger) : Step → Logger
  | .record r => l.record r
  | .take => l.take
  | .retry => l.retryHead
  | .failNext n => { l with trail := { l.trail with failing := n } }
  | .close => { l with closed := true }
  | .abandon => l.abandon

def run (l : Logger) (steps : List Step) : Logger := steps.foldl step l

/-- Takes up to `n` records, until one is refused. -/
def drain (l : Logger) : Nat → Logger
  | 0 => l
  | n + 1 => if l.head.isNone then l.take.drain n else l

/-- The writer works as long as the trail takes records. -/
def settle (l : Logger) : Logger := l.drain l.queue.length

/-- Takes events that happen at one time, one after another. -/
def recordAll (l : Logger) (now : Instant) (events : List Event) : Logger :=
  events.foldl (fun l e => (l.record (e.recordAt now)).settle) l

/-- Tries a refused record until the trail takes it. -/
def insist (l : Logger) : Logger :=
  if l.head.isSome then { l with trail := { l.trail with failing := 0 } }.retryHead else l

/-- Waits until everything is written, however often the trail refuses: once it has taken a refused record it takes those
behind it. -/
def flush (l : Logger) : Logger := if l.closed then l else l.insist.settle.insist.settle

/-- The last tries before the logger gives up: each that succeeds lets the queue follow. -/
def finish (l : Logger) : Nat → Logger
  | 0 => l.abandon
  | n + 1 => if l.head.isSome then l.retryHead.settle.finish n else l

/-- Writes what is waiting, as far as the trail lets it, and closes. -/
def shutdown (l : Logger) : Logger :=
  if l.closed then l else { l with closed := true }.settle.finish l.maxRetries

def query (l : Logger) (f : Filter) : List Record := f.select (l.flush.trail.records.map Sealed.record)

def verify (l : Logger) : Except ChainFault Nat := verifyChain l.flush.trail.records

end Logger

end StrategyHost.Audit
