import StrategyHost.Audit.Chain
import StrategyHost.Text.Blank

/-! # Audit files

An audit file holds one sealed record to a line. `readLines` reads such a file, skipping blank lines, and
`lineOf` is the line that is appended for a record. `appendLine` appends a line to an output that may take it in
parts and fail at any of them: what a failed attempt has written is cut off again. -/

namespace StrategyHost.Audit

/-- The lines of a text, without their ends; a line ends in a line feed, which a carriage return may precede. -/
def splitLines (cs : List Char) : List (List Char) :=
  go [] cs
where
  /-- `acc` holds the characters of the running line, last first. -/
  go (acc : List Char) : List Char → List (List Char)
    | [] => if acc.isEmpty then [] else [acc.reverse]
    | '\n' :: rest =>
      let line := match acc with
        | '\r' :: before => before
        | whole => whole
      line.reverse :: go [] rest
    | c :: rest => go (c :: acc) rest

/-- The records of the lines that are not blank, or the fault of the first that cannot be read. -/
def decodeLines : List (List Char) → Except Json.Fault (List Sealed)
  | [] => .ok []
  | line :: rest =>
    if line.all Text.isBlank then decodeLines rest
    else do
      let s ← Json.decodeText Sealed.decoder (String.ofList line)
      let more ← decodeLines rest
      return s :: more

def readLines (content : String) : Except Json.Fault (List Sealed) := decodeLines (splitLines content.toList)

/-- The line of a record, with its end. -/
def lineOf (s : Sealed) : String := s.toJson.compact ++ "\n"

/-- How the system answers a write: it takes at most so many of the bytes, it is interrupted before it takes any, or it
fails. -/
inductive WriteAnswer where
  | takes (n : Nat)
  | interrupted
  | fails
deriving DecidableEq, Repr

/-- How the system answers an attempt to append. Behind the last of the answers to its writes a write takes all bytes. -/
structure WriteAttempt where
  /-- Whether the length of the output can be told. -/
  measures : Bool
  writes : List WriteAnswer
  flushes : Bool
  /-- Whether the output can be cut back. -/
  cuts : Bool
deriving DecidableEq, Repr

/-- Writes bytes behind an output, by as many writes as it takes: whether all are written, and the output then. A write
that takes nothing is a failure. -/
def writeAll : List WriteAnswer → List UInt8 → List UInt8 → Bool × List UInt8
  | _, [], out => (true, out)
  | [], bytes, out => (true, out ++ bytes)
  | .takes 0 :: _, _, out => (false, out)
  | .takes (n + 1) :: answers, bytes, out => writeAll answers (bytes.drop (n + 1)) (out ++ bytes.take (n + 1))
  | .interrupted :: answers, bytes, out => writeAll answers bytes out
  | .fails :: _, _, out => (false, out)

/-- One attempt to append a line: whether it succeeds, and the output behind it. What a failed attempt has written is
cut off, if it can be. -/
def appendLine (attempt : WriteAttempt) (line out : List UInt8) : Bool × List UInt8 :=
  if attempt.measures then
    let (whole, written) := writeAll attempt.writes line out
    if whole && attempt.flushes then (true, written)
    else (false, if attempt.cuts then written.take out.length else written)
  else (false, out)

end StrategyHost.Audit
