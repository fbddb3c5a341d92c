import StrategyHost.Json.Basic

/-! # Reading JSON text

A text is first read into a `Doc`, which keeps what a typed reader may need to know: fields in the order of the
text, and the place where the text stops being JSON (`Doc.broken`, or the `stop` of an array or an object). A typed
reader that walks a `Doc` in order therefore reports the first problem in the text, whether it is one of form or one of
type. -/

namespace StrategyHost.Json

/-- Why a document is refused: it is not JSON, it ends too early, or it is JSON of another type. -/
inductive Fault where
  | malformed
  | truncated
  | mismatch (message : Option String)
deriving DecidableEq, Repr, Inhabited

namespace Fault

def category : Fault → String
  | malformed => "syntax"
  | truncated => "eof"
  | mismatch _ => "data"

def message : Fault → String
  | malformed => "malformed document"
  | truncated => "the document ends too early"
  | mismatch m => m.getD "unexpected type"

/-- A report under the name of the error that the fault causes. Only a message of its own is told. -/
def report (error : String) (f : Fault) : Json :=
  .obj <| [("error", .str error), ("category", .str f.category)] ++
    match f with
    | mismatch (some m) => [("message", .str m)]
    | _ => []

end Fault

/-- A number as it is spelled: its digits before and after the point, and the sign and digits of the
exponent. -/
structure Numeral where
  negative : Bool
  whole : List Char
  fraction : List Char
  exponent : Option (Bool × List Char)
deriving Repr, DecidableEq, Inhabited

/-- A document: a tree whose leaves may be places where the text breaks. `level` counts the containers
around a container, itself included; a number without value is too large, and a string without text has a
surrogate of its own. -/
inductive Doc where
  | null
  | bool (b : Bool)
  | num (value : Option Json)
  | str (text : Option String)
  | arr (level : Nat) (items : List Doc) (stop : Option Fault)
  | obj (level : Nat) (fields : List (Option String × Doc)) (stop : Option Fault)
  | broken (fault : Fault)
deriving Inhabited

/-! ### Numbers -/

def digitValue (c : Char) : Nat := c.toNat - '0'.toNat

/-- Digits appended to `acc` while the value stays below `2 ^ 64`, and the digits left over. -/
def absorbDigits (acc : Nat) : List Char → Nat × List Char
  | [] => (acc, [])
  | c :: cs =>
    let next := acc * 10 + digitValue c
    if next < 2 ^ 64 then absorbDigits next cs else (acc, c :: cs)

/-- The value of an exponent's digits, or `none` from `2 ^ 31` on. -/
def exponentValue? (ds : List Char) : Option Nat :=
  let n := ds.foldl (fun acc c => if acc < 2 ^ 31 then acc * 10 + digitValue c else acc) 0
  if n < 2 ^ 31 then some n else none

def powerOfTen (n : Nat) : Float := Float.ofScientific 1 false n

/-- `x · 10 ^ e` by one multiplication or by divisions of at most `10 ^ 308` each; `none` when it
overflows. -/
def scaleByTen (x : Float) (e : Int) : Nat → Option Float
  | 0 => some x
  | fuel + 1 =>
    if e.natAbs ≤ 308 then
      if 0 ≤ e then
        let y := x * powerOfTen e.toNat
        if y.isInf then none else some y
      else some (x / powerOfTen e.natAbs)
    else if x == 0.0 then some x
    else if 0 ≤ e then none
    else scaleByTen (x / powerOfTen 308) (e + 308) fuel

/-- The double with a significand below `2 ^ 64` and a decimal exponent. -/
def floatOf? (negative : Bool) (significand : Nat) (exponent : Int) : Option Float :=
  (scaleByTen significand.toUInt64.toFloat exponent (exponent.natAbs / 308 + 2)).map
    fun x => if negative then -x else x

/-- The value of a number: whole numbers of 64 bits exactly, all else as a double whose digits are read into
a 64-bit significand and scaled by the exponent. `none` when it is too large. -/
def Numeral.value? (n : Numeral) : Option Json :=
  let (whole, dropped) := absorbDigits 0 n.whole
  let (significand, rest) := if n.fraction.isEmpty then (whole, []) else absorbDigits whole n.fraction
  let places : Int := (n.fraction.length : Int) - rest.length
  let base : Int := (dropped.length : Int) - places
  match n.exponent with
  | some (below, ds) =>
    match exponentValue? ds with
    | some e =>
      let shifted := if below then base - e else base + e
      (floatOf? n.negative significand shifted).map .float
    | none =>
      if significand ≠ 0 ∧ ¬ below then none
      else some (.float (if n.negative then -0.0 else 0.0))
  | none =>
    if n.fraction.isEmpty ∧ dropped.isEmpty then
      if n.negative then
        if whole = 0 ∨ 2 ^ 63 < whole then some (.float (-whole.toUInt64.toFloat))
        else some (.int (-whole))
      else some (.int whole)
    else (floatOf? n.negative significand base).map .float

/-! ### Lexemes -/

def isBlank (c : Char) : Bool := c = ' ' || c = '\n' || c = '\t' || c = '\r'

def skipBlanks (cs : List Char) : List Char := cs.dropWhile isBlank

def isDigit (c : Char) : Bool := '0' ≤ c && c ≤ '9'

/-- What is reported where a character `c?` cannot stand. -/
def faultAt : List Char → Fault
  | [] => .truncated
  | _ :: _ => .malformed

/-- The exponent of a number, if it has one. -/
def readExponent (cs : List Char) : Except Fault (Option (Bool × List Char) × List Char) :=
  match cs with
  | c :: cs' =>
    if c = 'e' ∨ c = 'E' then
      let (below, ds) := match cs' with
        | '+' :: r => (false, r)
        | '-' :: r => (true, r)
        | r => (false, r)
      let digits := ds.takeWhile isDigit
      if digits.isEmpty then .error (faultAt ds) else .ok (some (below, digits), ds.dropWhile isDigit)
    else .ok (none, cs)
  | [] => .ok (none, cs)

def readFraction (cs : List Char) : Except Fault (List Char × List Char) :=
  match cs with
  | '.' :: cs' =>
    let digits := cs'.takeWhile isDigit
    if digits.isEmpty then .error (faultAt (cs'.dropWhile isDigit)) else .ok (digits, cs'.dropWhile isDigit)
  | _ => .ok ([], cs)

/-- The digits before the point: no zero leads another digit. -/
def readWhole (cs : List Char) : Except Fault (List Char × List Char) :=
  match cs with
  | '0' :: c :: r => if isDigit c then .error .malformed else .ok (['0'], c :: r)
  | cs =>
    let digits := cs.takeWhile isDigit
    if digits.isEmpty then .error (faultAt cs) else .ok (digits, cs.dropWhile isDigit)

def readNumeral (cs : List Char) : Except Fault (Numeral × List Char) := do
  let (negative, cs) := match cs with
    | '-' :: r => (true, r)
    | r => (false, r)
  let (whole, cs) ← readWhole cs
  let (fraction, cs) ← readFraction cs
  let (exponent, cs) ← readExponent cs
  return (⟨negative, whole, fraction, exponent⟩, cs)

def hexValue? (c : Char) : Option Nat :=
  if '0' ≤ c ∧ c ≤ '9' then some (c.toNat - 48)
  else if 'a' ≤ c ∧ c ≤ 'f' then some (c.toNat - 87)
  else if 'A' ≤ c ∧ c ≤ 'F' then some (c.toNat - 55)
  else none

def readHex4 (cs : List Char) : Except Fault (Nat × List Char) :=
  match cs with
  | a :: b :: c :: d :: r =>
    match hexValue? a, hexValue? b, hexValue? c, hexValue? d with
    | some a, some b, some c, some d => .ok (((a * 16 + b) * 16 + c) * 16 + d, r)
    | _, _, _, _ => .error .malformed
  | _ => .error .truncated

/-- The character that a backslash and `c` stand for. -/
def unescape? (c : Char) : Option Char :=
  match c with
  | '"' => some '"'
  | '\\' => some '\\'
  | '/' => some '/'
  | 'b' => some '\x08'
  | 'f' => some '\x0c'
  | 'n' => some '\n'
  | 'r' => some '\r'
  | 't' => some '\t'
  | _ => none

/-- A character written by its code, after `\u`: a pair of surrogates is one character, and a surrogate of
its own is none. -/
def readCodeUnit (cs : List Char) : Except Fault (Option Char × List Char) := do
  let (n, cs) ← readHex4 cs
  if 0xDC00 ≤ n ∧ n ≤ 0xDFFF then return (none, cs)
  else if 0xD800 ≤ n ∧ n ≤ 0xDBFF then
    match cs with
    | '\\' :: 'u' :: cs' =>
      let (m, r) ← readHex4 cs'
      if 0xDC00 ≤ m ∧ m ≤ 0xDFFF then
        return (some (Char.ofNat (0x10000 + (n - 0xD800) * 0x400 + (m - 0xDC00))), r)
      else return (none, r)
    | _ => return (none, cs)
  else return (some (Char.ofNat n), cs)

/-- The rest of a string after its opening quote. `valid` is whether no surrogate stood alone so far, and
`acc` holds the characters read, last first. -/
def readStringTail : Nat → Bool → List Char → List Char → Except Fault (Option String × List Char)
  | 0, _, _, _ => .error .truncated
  | _ + 1, _, _, [] => .error .truncated
  | fuel + 1, valid, acc, c :: cs =>
    if c = '"' then .ok (if valid then some (String.ofList acc.reverse) else none, cs)
    else if c = '\\' then
      match cs with
      | [] => .error .truncated
      | 'u' :: cs' =>
        match readCodeUnit cs' with
        | .error f => .error f
        | .ok (some ch, r) => readStringTail fuel valid (ch :: acc) r
        | .ok (none, r) => readStringTail fuel false acc r
      | e :: cs' =>
        match unescape? e with
        | some ch => readStringTail fuel valid (ch :: acc) cs'
        | none => .error .malformed
    else if c.toNat < 32 then .error .malformed
    else readStringTail fuel valid (c :: acc) cs

def readString (cs : List Char) : Except Fault (Option String × List Char) :=
  match cs with
  | '"' :: r => readStringTail (r.length + 1) true [] r
  | _ => .error (faultAt cs)

/-- The rest of a word whose first letter has been seen. -/
def readWord : List Char → List Char → Except Fault (List Char)
  | [], cs => .ok cs
  | _ :: _, [] => .error .truncated
  | w :: ws, c :: cs => if c = w then readWord ws cs else .error .malformed

/-! ### Trees -/

def leaf (d : Doc) (rest : List Char) : Doc × Option (List Char) := (d, some rest)

def halt (f : Fault) : Doc × Option (List Char) := (.broken f, none)

def readScalar (cs : List Char) : Doc × Option (List Char) :=
  match cs with
  | [] => halt .truncated
  | 'n' :: r =>
    match readWord ['u', 'l', 'l'] r with
    | .ok r => leaf .null r
    | .error f => halt f
  | 't' :: r =>
    match readWord ['r', 'u', 'e'] r with
    | .ok r => leaf (.bool true) r
    | .error f => halt f
  | 'f' :: r =>
    match readWord ['a', 'l', 's', 'e'] r with
    | .ok r => leaf (.bool false) r
    | .error f => halt f
  | '"' :: _ =>
    match readString cs with
    | .ok (s, r) => leaf (.str s) r
    | .error f => halt f
  | c :: _ =>
    if c = '-' ∨ isDigit c then
      match readNumeral cs with
      | .ok (n, r) => leaf (.num n.value?) r
      | .error f => halt f
    else halt .malformed

mutual

/-- A value, preceded by blanks, inside `level` containers; the rest of the text if it could be read
through. `fuel` bounds the number of steps, which are two at most for each character. -/
def readValue : Nat → Nat → List Char → Doc × Option (List Char)
  | 0, _, _ => halt .truncated
  | fuel + 1, level, cs =>
    match skipBlanks cs with
    | '[' :: r =>
      match skipBlanks r with
      | ']' :: r => leaf (.arr (level + 1) [] none) r
      | r =>
        let (items, stop, rest) := readItems fuel (level + 1) r
        (.arr (level + 1) items stop, rest)
    | '{' :: r =>
      match skipBlanks r with
      | '}' :: r => leaf (.obj (level + 1) [] none) r
      | r =>
        let (fields, stop, rest) := readFields fuel (level + 1) r
        (.obj (level + 1) fields stop, rest)
    | r => readScalar r

def readItems : Nat → Nat → List Char → List Doc × Option Fault × Option (List Char)
  | 0, _, _ => ([], some .truncated, none)
  | fuel + 1, level, cs =>
    match readValue fuel level cs with
    | (d, none) => ([d], none, none)
    | (d, some r) =>
      match skipBlanks r with
      | ']' :: r => ([d], none, some r)
      | ',' :: r =>
        match skipBlanks r with
        | ']' :: _ => ([d], some .malformed, none)
        | r =>
          let (ds, stop, rest) := readItems fuel level r
          (d :: ds, stop, rest)
      | r => ([d], some (faultAt r), none)

def readFields : Nat → Nat → List Char → List (Option String × Doc) × Option Fault × Option (List Char)
  | 0, _, _ => ([], some .truncated, none)
  | fuel + 1, level, cs =>
    match readString (skipBlanks cs) with
    | .error f => ([], some f, none)
    | .ok (key, r) =>
      match skipBlanks r with
      | ':' :: r =>
        match readValue fuel level r with
        | (d, none) => ([(key, d)], none, none)
        | (d, some r) =>
          match skipBlanks r with
          | '}' :: r => ([(key, d)], none, some r)
          | ',' :: r =>
            let (fs, stop, rest) := readFields fuel level (skipBlanks r)
            ((key, d) :: fs, stop, rest)
          | r => ([(key, d)], some (faultAt r), none)
      | r => ([(key, .broken (faultAt r))], none, none)

end

/-- A whole text: its document, and the fault of what stands behind it. -/
def readText (text : String) : Doc × Option Fault :=
  let cs := text.toList
  match readValue (2 * cs.length + 1) 0 cs with
  | (d, none) => (d, none)
  | (d, some r) => (d, if (skipBlanks r).isEmpty then none else some .malformed)

end StrategyHost.Json
