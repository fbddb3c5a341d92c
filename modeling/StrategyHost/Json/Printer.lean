import StrategyHost.Json.Basic
import StrategyHost.Double.Text

/-! # Writing JSON

`Json.compact` writes a value without blanks, `Json.pretty` with an indent of two. Both are built on
`write v rest`, the text of `v` followed by `rest`. -/

namespace StrategyHost.Json

def hexDigit (n : Nat) : Char := Nat.digitChar (n % 16)

/-- A character inside a string: quotes, backslashes and control characters below the blank are escaped. -/
def escapeChar (c : Char) : List Char :=
  if c = '"' then ['\\', '"']
  else if c = '\\' then ['\\', '\\']
  else if c = '\n' then ['\\', 'n']
  else if c = '\r' then ['\\', 'r']
  else if c = '\t' then ['\\', 't']
  else if c = '\x08' then ['\\', 'b']
  else if c = '\x0c' then ['\\', 'f']
  else if c.toNat < 32 then ['\\', 'u', '0', '0', hexDigit (c.toNat / 16), hexDigit c.toNat]
  else [c]

/-- The characters of a string, escaped, then `rest`. -/
def writeChars : List Char → List Char → List Char
  | [], rest => rest
  | c :: cs, rest => escapeChar c ++ writeChars cs rest

def writeString (s : String) (rest : List Char) : List Char :=
  '"' :: writeChars s.toList ('"' :: rest)

/-- A double in a document: positional while the leading digit's exponent is between `-5` and `15`, with
`.0` on whole numbers, else with a signed exponent. -/
def spellFloat (x : Float) : List Char :=
  match Double.parts? x with
  | none => "null".toList
  | some p =>
    let s := p.shortest
    let ds := Double.digitsOf s.digits
    let lead : Int := s.exponent + (ds.length : Int) - 1
    let sign := if Double.isNegative x then ['-'] else []
    if -5 ≤ lead ∧ lead ≤ 15 then sign ++ s.positional true
    else
      let fraction := if ds.length ≤ 1 then [] else '.' :: ds.drop 1
      let exponent := (if lead < 0 then '-' else '+') :: Double.digitsOf lead.natAbs
      sign ++ ds.take 1 ++ fraction ++ 'e' :: exponent

def spellInt (n : Int) : List Char :=
  if n < 0 then '-' :: Double.digitsOf n.natAbs else Double.digitsOf n.natAbs

mutual

/-- The text of a value without blanks, then `rest`. -/
def write : Json → List Char → List Char
  | .null, rest => 'n' :: 'u' :: 'l' :: 'l' :: rest
  | .bool true, rest => 't' :: 'r' :: 'u' :: 'e' :: rest
  | .bool false, rest => 'f' :: 'a' :: 'l' :: 's' :: 'e' :: rest
  | .int n, rest => spellInt n ++ rest
  | .float x, rest => spellFloat x ++ rest
  | .str s, rest => writeString s rest
  | .arr [], rest => '[' :: ']' :: rest
  | .arr (x :: xs), rest => '[' :: write x (writeItems xs rest)
  | .obj [], rest => '{' :: '}' :: rest
  | .obj ((k, v) :: fs), rest => '{' :: writeString k (':' :: write v (writeFields fs rest))

def writeItems : List Json → List Char → List Char
  | [], rest => ']' :: rest
  | x :: xs, rest => ',' :: write x (writeItems xs rest)

def writeFields : List (String × Json) → List Char → List Char
  | [], rest => '}' :: rest
  | (k, v) :: fs, rest => ',' :: writeString k (':' :: write v (writeFields fs rest))

end

def compact (v : Json) : String := String.ofList (write v [])

def newline (level : Nat) (rest : List Char) : List Char :=
  '\n' :: (List.replicate (2 * level) ' ' ++ rest)

mutual

/-- The text of a value with one item to a line, then `rest`. -/
def writePretty (level : Nat) : Json → List Char → List Char
  | .arr (x :: xs), rest =>
    '[' :: newline (level + 1) (writePretty (level + 1) x (writePrettyItems level xs rest))
  | .obj ((k, v) :: fs), rest =>
    '{' :: newline (level + 1) (writeString k (':' :: ' ' :: writePretty (level + 1) v
      (writePrettyFields level fs rest)))
  | .null, rest => write .null rest
  | .bool b, rest => write (.bool b) rest
  | .int n, rest => write (.int n) rest
  | .float x, rest => write (.float x) rest
  | .str s, rest => write (.str s) rest
  | .arr [], rest => '[' :: ']' :: rest
  | .obj [], rest => '{' :: '}' :: rest

def writePrettyItems (level : Nat) : List Json → List Char → List Char
  | [], rest => newline level (']' :: rest)
  | x :: xs, rest => ',' :: newline (level + 1) (writePretty (level + 1) x (writePrettyItems level xs rest))

def writePrettyFields (level : Nat) : List (String × Json) → List Char → List Char
  | [], rest => newline level ('}' :: rest)
  | (k, v) :: fs, rest =>
    ',' :: newline (level + 1) (writeString k (':' :: ' ' :: writePretty (level + 1) v
      (writePrettyFields level fs rest)))

end

def pretty (v : Json) : String := String.ofList (writePretty 0 v [])

end StrategyHost.Json
