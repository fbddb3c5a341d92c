import StrategyHost.Audit.Logger

/-! # Calls and the writer, side by side

`Logger.record`, `take`, `retryHead` and `abandon` run to their ends as if nobody else were there. In truth callers and the
writer share the queue, the counters and the mark that the logger is closed, and whoever waits for nothing may go on at any time.
`Busy` is a logger with the calls that are in flight and what its writer is about, and a `Move` is what one of them does between two
looks at what is shared: one access to the queue, to the mark, to the trail or to a counter.

A flush makes the writer do what it does anyway and waits for it, so it is no move of its own. -/

namespace StrategyHost.Audit.Logger

/-- How far a call to put a record into the queue has come. -/
inductive Stage where
  /-- It has not looked yet whether the logger is closed. -/
  | entered
  /-- It has `n` tries left. Without any its record is dropped. -/
  | trying (n : Nat)
  /-- It has found the queue full. -/
  | full (n : Nat)
  /-- It has removed the oldest record of the queue and not counted it yet. -/
  | removed (n : Nat)
deriving DecidableEq, Repr

structure Call where
  record : Record
  stage : Stage

/-- How far the writer has come. -/
inductive Writing where
  | serving
  /-- It was told to stop, and has `n` tries left to append the head record. -/
  | stopping (n : Nat)
  /-- It has given up the head record, has taken `pending` for the number of records that are lost, and empties the queue. -/
  | emptying (pending : Nat)
  /-- It has found the queue empty. -/
  | losing (pending : Nat)
  | stopped
deriving DecidableEq, Repr

def Writing.isEmptying : Writing → Bool
  | emptying _ => true
  | _ => false

/-- What the writer does at once, before anything else. -/
inductive Task where
  | none
  /-- To try to append the record that it has just sealed. -/
  | append
  /-- To count the record that it has just appended. -/
  | count
deriving DecidableEq, Repr

/-- A logger at work. What it does not know itself: the records of the calls so far, in the order in which the calls began and in
that in which they put them into the queue; how many records were put into the queue, and how many removed from it by calls, while the
writer emptied it; and whether a call began before another was over. -/
structure Busy where
  logger : Logger
  calls : List Call
  writing : Writing
  task : Task
  begun : List Record
  sent : List Record
  missed : Nat
  doubled : Nat
  overlapped : Bool

namespace Busy

def start (config : Config) (trail : Trail) : Busy :=
  { logger := Logger.start config trail, calls := [], writing := .serving, task := .none, begun := [], sent := [], missed := 0,
    doubled := 0, overlapped := false }

/-- Where a try to append the head record leaves the writer, if it may try. The first try of a record is never counted. -/
def tried (b : Busy) : Option Writing :=
  match b.task, b.writing with
  | .append, w => some w
  | .none, .serving => some .serving
  | .none, .stopping (n + 1) => some (.stopping n)
  | _, _ => none

/-- Whether the writer takes records from the queue to write them. -/
def takes (b : Busy) : Bool :=
  match b.task, b.writing with
  | .none, .serving => true
  | .none, .stopping _ => true
  | _, _ => false

end Busy

/-- What one of those who share a logger does, between two looks of another one. -/
inductive Move : Busy → Busy → Prop
  | enter {b} (r : Record) : Move b
      { b with
        calls := b.calls ++ [⟨r, .entered⟩]
        begun := b.begun ++ [r]
        overlapped := b.overlapped || !b.calls.isEmpty }
  | look {b before r after} : b.calls = before ++ ⟨r, .entered⟩ :: after → Move b
      { b with calls := before ++ ⟨r, .trying (if b.logger.closed then 0 else b.logger.attempts)⟩ :: after }
  | put {b before r n after} : b.calls = before ++ ⟨r, .trying (n + 1)⟩ :: after →
      b.logger.queue.length < b.logger.capacity → Move b
      { b with
        logger := { b.logger with queue := b.logger.queue ++ [r] }
        calls := before ++ after
        sent := b.sent ++ [r]
        missed := b.missed + b.writing.isEmptying.toNat }
  | findFull {b before r n after} : b.calls = before ++ ⟨r, .trying (n + 1)⟩ :: after →
      b.logger.capacity ≤ b.logger.queue.length → Move b { b with calls := before ++ ⟨r, .full n⟩ :: after }
  | remove {b before r n after oldest rest} : b.calls = before ++ ⟨r, .full n⟩ :: after →
      b.logger.queue = oldest :: rest → Move b
      { b with
        logger := { b.logger with queue := rest }
        calls := before ++ ⟨r, .removed n⟩ :: after
        doubled := b.doubled + b.writing.isEmptying.toNat }
  | findEmpty {b before r n after} : b.calls = before ++ ⟨r, .full n⟩ :: after → b.logger.queue = [] →
      Move b { b with calls := before ++ ⟨r, .trying n⟩ :: after }
  | countOldest {b before r n after} : b.calls = before ++ ⟨r, .removed n⟩ :: after → Move b
      { b with
        logger := { b.logger with dropped := b.logger.dropped + 1 }
        calls := before ++ ⟨r, .trying n⟩ :: after }
  | countNewest {b before r after} : b.calls = before ++ ⟨r, .trying 0⟩ :: after → Move b
      { b with
        logger := { b.logger with dropped := b.logger.dropped + 1 }
        calls := before ++ after }
  | failNext {b} (n : Nat) : Move b { b with logger := { b.logger with trail := { b.logger.trail with failing := n } } }
  | close {b} : Move b { b with logger := { b.logger with closed := true } }
  | take {b r rest} : b.takes = true → b.logger.head = none → b.logger.queue = r :: rest → Move b
      { b with
        logger := { b.logger with queue := rest, head := some (.ofRecord b.logger.nextSequence b.logger.prevHash r) }
        task := .append }
  | append {b w s} : b.tried = some w → b.logger.head = some s → b.logger.trail.failing = 0 → Move b
      { b with
        logger := { b.logger with
          trail := ⟨b.logger.trail.records ++ [s], 0⟩
          head := none
          nextSequence := b.logger.nextSequence + 1
          prevHash := s.hash }
        writing := w
        task := .count }
  | refuse {b w} : b.tried = some w → b.logger.head.isSome → b.logger.trail.failing ≠ 0 → Move b
      { b with
        logger := { b.logger with trail := { b.logger.trail with failing := b.logger.trail.failing - 1 } }
        writing := w
        task := .none }
  | count {b} : b.task = .count → Move b
      { b with
        logger := { b.logger with written := b.logger.written + 1 }
        task := .none }
  | stop {b} : b.writing = .serving → b.task = .none → b.logger.closed = true →
      Move b { b with writing := .stopping b.logger.maxRetries }
  | leave {b n} : b.writing = .stopping n → b.task = .none → b.logger.head = none → b.logger.queue = [] →
      Move b { b with writing := .stopped }
  | giveUp {b} : b.writing = .stopping 0 → b.task = .none → b.logger.head.isSome → Move b
      { b with
        logger := { b.logger with head := none }
        writing := .emptying (1 + b.logger.queue.length) }
  | discard {b pending r rest} : b.writing = .emptying pending → b.logger.queue = r :: rest →
      Move b { b with logger := { b.logger with queue := rest } }
  | findNone {b pending} : b.writing = .emptying pending → b.logger.queue = [] → Move b { b with writing := .losing pending }
  | lose {b pending} : b.writing = .losing pending → Move b
      { b with
        logger := { b.logger with lost := b.logger.lost + pending }
        writing := .stopped }

/-- What a logger that was started with a trail can come to, by moves in any order. -/
inductive Ran (config : Config) (trail : Trail) : Busy → Prop
  | start : Ran config trail (.start config trail)
  | move {b b'} : Ran config trail b → Move b b' → Ran config trail b'

end StrategyHost.Audit.Logger
