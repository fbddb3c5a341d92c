import StrategyHost.Double.Numeral
import StrategyHost.Json.Basic

/-! # TOML scalars

The parts of a TOML document that hold no others: blanks and comments, the four kinds of strings, keys, numbers, and
dates. A reader takes the characters of a document and gives what it has read and the rest, or nothing if the document
is malformed. Values are kept as `Json`; a date is kept as its text. -/

namespace StrategyHost.Toml

abbrev Input := List Char

abbrev Read (α : Type) := Input → Option (α × Input)

/-! ## Blanks -/

def isBlank (c : Char) : Bool := c == ' ' || c == '\t'

def skipBlanks (cs : Input) : Input := cs.dropWhile isBlank

/-- Characters that may stand in comments and strings. -/
def isPlain (c : Char) : Bool := c == '\t' || (' ' ≤ c && c != '\x7f')

def newline? : Input → Option Input
  | '\n' :: rest => some rest
  | '\r' :: '\n' :: rest => some rest
  | _ => none

/-- The rest behind a line on which only blanks and a comment are left. -/
def lineEnd? (cs : Input) : Option Input :=
  let rest := match skipBlanks cs with
    | '#' :: rest => rest.dropWhile isPlain
    | rest => rest
  match rest with
  | [] => some []
  | rest => newline? rest

/-- Skips blanks, ends of lines and comments. -/
def skipSpace (comment : Bool) : Input → Input
  | [] => []
  | '\r' :: '\n' :: rest => skipSpace false rest
  | c :: rest =>
    if c == '\n' then skipSpace false rest
    else if comment then if isPlain c then skipSpace true rest else c :: rest
    else if isBlank c then skipSpace false rest
    else if c == '#' then skipSpace true rest
    else c :: rest

/-! ## Strings -/

def hexValue? (c : Char) : Option Nat :=
  if c.isDigit then some (c.toNat - '0'.toNat)
  else if 'a' ≤ c && c ≤ 'f' then some (c.toNat - 'a'.toNat + 10)
  else if 'A' ≤ c && c ≤ 'F' then some (c.toNat - 'A'.toNat + 10)
  else none

def charOf? (digits : List Char) : Option Char := do
  let code ← digits.foldlM (fun n c => (hexValue? c).map (16 * n + ·)) 0
  if code < 0xd800 || (0xdfff < code && code < 0x110000) then some (Char.ofNat code) else none

def escaped? : Char → Option Char
  | 'b' => some '\x08'
  | 't' => some '\t'
  | 'n' => some '\n'
  | 'f' => some '\x0c'
  | 'r' => some '\r'
  | '"' => some '"'
  | '\\' => some '\\'
  | _ => none

def prepend (c : Char) (r : Option (List Char × Input)) : Option (List Char × Input) :=
  r.map fun (cs, rest) => (c :: cs, rest)

/-- The rest of a string with escapes on one line. -/
def basic : Read (List Char)
  | '"' :: rest => some ([], rest)
  | '\\' :: 'u' :: a :: b :: c :: d :: rest => do prepend (← charOf? [a, b, c, d]) (basic rest)
  | '\\' :: 'U' :: a :: b :: c :: d :: e :: f :: g :: h :: rest => do
    prepend (← charOf? [a, b, c, d, e, f, g, h]) (basic rest)
  | '\\' :: c :: rest => do prepend (← escaped? c) (basic rest)
  | c :: rest => if isPlain c then prepend c (basic rest) else none
  | [] => none

/-- The rest of a string with escapes on several lines. `joining` holds while an escaped end of a line swallows
blanks. -/
def multiBasic (joining : Bool) : Read (List Char)
  | '"' :: '"' :: '"' :: '"' :: '"' :: rest => some (['"', '"'], rest)
  | '"' :: '"' :: '"' :: '"' :: rest => some (['"'], rest)
  | '"' :: '"' :: '"' :: rest => some ([], rest)
  | '\r' :: '\n' :: rest => if joining then multiBasic true rest else prepend '\n' (multiBasic false rest)
  | '\\' :: 'u' :: a :: b :: c :: d :: rest => do prepend (← charOf? [a, b, c, d]) (multiBasic false rest)
  | '\\' :: 'U' :: a :: b :: c :: d :: e :: f :: g :: h :: rest => do
    prepend (← charOf? [a, b, c, d, e, f, g, h]) (multiBasic false rest)
  | '\\' :: c :: rest =>
    match escaped? c with
    | some e => prepend e (multiBasic false rest)
    | none => if (newline? (skipBlanks (c :: rest))).isSome then multiBasic true rest else none
  | c :: rest =>
    if joining && (isBlank c || c == '\n') then multiBasic true rest
    else if isPlain c || c == '\n' then prepend c (multiBasic false rest)
    else none
  | [] => none

/-- The rest of a string without escapes on one line. -/
def literal : Read (List Char)
  | '\x27' :: rest => some ([], rest)
  | c :: rest => if isPlain c then prepend c (literal rest) else none
  | [] => none

/-- The rest of a string without escapes on several lines. -/
def multiLiteral : Read (List Char)
  | '\x27' :: '\x27' :: '\x27' :: '\x27' :: '\x27' :: rest => some (['\x27', '\x27'], rest)
  | '\x27' :: '\x27' :: '\x27' :: '\x27' :: rest => some (['\x27'], rest)
  | '\x27' :: '\x27' :: '\x27' :: rest => some ([], rest)
  | '\r' :: '\n' :: rest => prepend '\n' (multiLiteral rest)
  | c :: rest => if isPlain c || c == '\n' then prepend c (multiLiteral rest) else none
  | [] => none

/-- The end of the line on which a string of several lines begins is not part of it. -/
def dropFirstNewline (cs : Input) : Input := (newline? cs).getD cs

def string? : Input → Option (Option (List Char × Input))
  | '"' :: '"' :: '"' :: rest => some (multiBasic false (dropFirstNewline rest))
  | '"' :: rest => some (basic rest)
  | '\x27' :: '\x27' :: '\x27' :: rest => some (multiLiteral (dropFirstNewline rest))
  | '\x27' :: rest => some (literal rest)
  | _ => none

/-! ## Keys -/

def isBareKey (c : Char) : Bool := c.isAlphanum || c == '_' || c == '-'

def simpleKey : Read String
  | '"' :: rest => (basic rest).map fun (cs, rest) => (String.ofList cs, rest)
  | '\x27' :: rest => (literal rest).map fun (cs, rest) => (String.ofList cs, rest)
  | cs =>
    let name := cs.takeWhile isBareKey
    if name.isEmpty then none else some (String.ofList name, cs.dropWhile isBareKey)

/-- The parts of a key, between points. A key has no more parts than characters. -/
def keyParts : Nat → Read (List String)
  | 0, _ => none
  | n + 1, cs => do
    let (part, rest) ← simpleKey (skipBlanks cs)
    match skipBlanks rest with
    | '.' :: rest => (keyParts n rest).map fun (parts, rest) => (part :: parts, rest)
    | rest => some ([part], rest)

def key (cs : Input) : Option (List String × Input) := keyParts cs.length cs

/-! ## Numbers -/

def digits? (isDigit : Char → Bool) : List Char → Option (List Char)
  | [] => none
  | [c] => if isDigit c then some [c] else none
  | a :: '_' :: b :: rest => do
    if isDigit a then return a :: (← digits? isDigit (b :: rest)) else none
  | a :: rest => do
    if isDigit a then return a :: (← digits? isDigit rest) else none

/-- A whole number is written in 64 bits. -/
def inRange? (n : Int) : Option Json := if -(2 ^ 63) ≤ n && n < 2 ^ 63 then some (.int n) else none

def inBase? (base : Nat) (cs : List Char) : Option Json := do
  let isDigit (c : Char) : Bool := (hexValue? c).any (· < base)
  let ds ← digits? isDigit cs
  inRange? (ds.foldl (fun n c => n * base + ((hexValue? c).getD 0 : Nat)) (0 : Nat))

/-- The digits before the point, which have no zero in front. -/
def whole? (cs : List Char) : Option (List Char) := do
  let ds ← digits? Char.isDigit cs
  if ds.length > 1 && ds.head? == some '0' then none else some ds

def finite? (x : Float) : Option Json := if x.isFinite then some (.float x) else none

def unsigned? (negative : Bool) (cs : List Char) : Option Json := do
  let isWhole (c : Char) : Bool := c.isDigit || c == '_'
  let whole ← whole? (cs.takeWhile isWhole)
  match cs.dropWhile isWhole with
  | [] => inRange? (if negative then -(Double.Numeral.natOf whole : Int) else Double.Numeral.natOf whole)
  | '.' :: rest =>
    let fraction ← digits? Char.isDigit (rest.takeWhile isWhole)
    let exponent ← Double.Numeral.readExponent? ((rest.dropWhile isWhole).filter (· != '_'))
    finite? (Double.Numeral.toDouble ⟨negative, whole, fraction, exponent⟩)
  | rest =>
    let exponent ← Double.Numeral.readExponent? (rest.filter (· != '_'))
    finite? (Double.Numeral.toDouble ⟨negative, whole, [], exponent⟩)

/-- Underscores stand between digits only. -/
def underscoresBetweenDigits : List Char → Bool
  | a :: '_' :: b :: rest =>
    a.isDigit && b.isDigit && underscoresBetweenDigits (b :: rest)
  | '_' :: _ => false
  | [_, '_'] => false
  | _ :: rest => underscoresBetweenDigits rest
  | [] => true

def number? (cs : List Char) : Option Json :=
  match cs with
  | '0' :: 'x' :: ds => inBase? 16 ds
  | '0' :: 'o' :: ds => inBase? 8 ds
  | '0' :: 'b' :: ds => inBase? 2 ds
  | _ =>
    let (negative, body) := match cs with
      | '-' :: body => (true, body)
      | '+' :: body => (false, body)
      | body => (false, body)
    if !underscoresBetweenDigits body then none
    else if body == "inf".toList then some (.float (if negative then -Double.infinite else Double.infinite))
    else if body == "nan".toList then some (.float Double.quietNaN)
    else unsigned? negative body

/-! ## Dates -/

def field? (n : Nat) (cs : List Char) : Option (Nat × List Char) :=
  let ds := cs.take n
  if ds.length = n && ds.all Char.isDigit then some (Double.Numeral.natOf ds, cs.drop n) else none

def leap (year : Nat) : Bool := year % 4 = 0 && (year % 100 ≠ 0 || year % 400 = 0)

def daysIn (year month : Nat) : Nat :=
  if month = 2 then if leap year then 29 else 28
  else if month = 4 || month = 6 || month = 9 || month = 11 then 30
  else 31

def date? (cs : List Char) : Option (List Char) := do
  let (year, rest) ← field? 4 cs
  let '-' :: rest := rest | none
  let (month, rest) ← field? 2 rest
  let '-' :: rest := rest | none
  let (day, rest) ← field? 2 rest
  if 1 ≤ month && month ≤ 12 && 1 ≤ day && day ≤ daysIn year month then some rest else none

def time? (cs : List Char) : Option (List Char) := do
  let (hour, rest) ← field? 2 cs
  let ':' :: rest := rest | none
  let (minute, rest) ← field? 2 rest
  let ':' :: rest := rest | none
  let (second, rest) ← field? 2 rest
  if 23 < hour || 59 < minute || 60 < second then none
  else
    match rest with
    | '.' :: rest => if rest.head?.any Char.isDigit then some (rest.dropWhile Char.isDigit) else none
    | rest => some rest

/-- Whether the text is an offset from UTC, or nothing. -/
def isOffset : List Char → Bool
  | [] | ['Z'] | ['z'] => true
  | sign :: rest =>
    (sign == '+' || sign == '-') &&
      match field? 2 rest with
      | some (hour, ':' :: rest) =>
        match field? 2 rest with
        | some (minute, []) => hour < 24 && minute < 60
        | _ => false
      | _ => false

/-- Whether the text is a date, a time, or both. -/
def isMoment (cs : List Char) : Bool :=
  match date? cs with
  | some [] => true
  | some (c :: rest) => (c == 'T' || c == 't' || c == ' ') && (time? rest).any isOffset
  | none => (time? cs).any List.isEmpty

/-- The text of a date and time, with the marks in upper case. -/
def moment (cs : List Char) : String :=
  String.ofList (cs.map fun c => if c == ' ' then 'T' else c.toUpper)

/-! ## Unquoted values -/

def isWordChar (c : Char) : Bool := c.isAlphanum || c == '+' || c == '-' || c == '_' || c == '.' || c == ':'

/-- The characters of an unquoted value. A blank may stand between a date and a time. -/
def word (cs : Input) : List Char × Input :=
  let first := cs.takeWhile isWordChar
  match cs.dropWhile isWordChar with
  | ' ' :: rest =>
    let second := rest.takeWhile isWordChar
    if (date? first == some []) && second.head?.any Char.isDigit then (first ++ ' ' :: second, rest.dropWhile isWordChar)
    else (first, ' ' :: rest)
  | rest => (first, rest)

def bare (cs : Input) : Option (Json × Input) := do
  let (w, rest) := word cs
  if w == "true".toList then some (.bool true, rest)
  else if w == "false".toList then some (.bool false, rest)
  else if isMoment w then some (.str (moment w), rest)
  else (number? w).map (·, rest)

end StrategyHost.Toml
