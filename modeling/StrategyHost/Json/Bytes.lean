import StrategyHost.Json.Decoder
import StrategyHost.Text.Lossy

/-! # Reading JSON from bytes

Bytes that are no text do not have to spoil a document. Inside of a string they leave it without text, which matters only to those who
look at it (`skip` does not); anywhere else they are not JSON.

What stands for such bytes has no influence on where a string ends, or on anything else than the text of the string it stands in. So the
bytes are read with two characters in their place, and a string has a text if both readings agree on it. -/

namespace StrategyHost.Json

def agreedText (s t : Option String) : Option String := if s = t then s else none

mutual

/-- A document of which there are two readings, with the texts that these agree on. -/
def Doc.agreed : Doc → Doc → Doc
  | .str s, .str t => .str (agreedText s t)
  | .arr level ds stop, .arr _ es _ => .arr level (agreedItems ds es) stop
  | .obj level fs stop, .obj _ gs _ => .obj level (agreedFields fs gs) stop
  | d, _ => d

def agreedItems : List Doc → List Doc → List Doc
  | d :: ds, e :: es => d.agreed e :: agreedItems ds es
  | _, _ => []

def agreedFields : List (Option String × Doc) → List (Option String × Doc) → List (Option String × Doc)
  | (k, d) :: fs, (l, e) :: gs => (agreedText k l, d.agreed e) :: agreedFields fs gs
  | _, _ => []

end

/-- Some bytes read as a text, with `mark` for what is none. -/
def readMarked (mark : Char) (bytes : List UInt8) : Doc × Option Fault := readText (String.ofList (Text.decodeFrom mark none bytes))

/-- The document in some bytes, and the fault of what stands behind it. -/
def readBytes (bytes : List UInt8) : Doc × Option Fault :=
  let (doc, trailing) := readMarked '\u0080' bytes
  (doc.agreed (readMarked '\u0081' bytes).1, trailing)

/-- Reads some bytes to their end. -/
def decodeBytes {α : Type} (d : Decoder α) (bytes : List UInt8) : Except Fault α := do
  let (doc, trailing) := readBytes bytes
  let a ← d doc
  checkStop trailing a

end StrategyHost.Json
