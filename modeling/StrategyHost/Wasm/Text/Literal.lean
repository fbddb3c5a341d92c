import StrategyHost.Double.Nearest

/-! # Number literals

`Literal.ofWord?` reads the numbers of the text form: decimal or hexadecimal, with single underscores between
digits, with a fraction and an exponent. A literal keeps its exact value; `toWord?` and `toFloat?` give the bits
of an integer or a float type if the value fits. -/

namespace StrategyHost.Wasm

inductive Magnitude where
  | integer (n : Nat)
  /-- `digits · base ^ exponent`, where the base is 2 or 10. -/
  | scaled (base : Nat) (digits : Nat) (exponent : Int)
  | infinite
  /-- Not a number, with a payload if one is given. -/
  | nan (payload? : Option Nat)
deriving DecidableEq, Repr, Inhabited

structure Literal where
  negative : Bool
  magnitude : Magnitude
deriving DecidableEq, Repr, Inhabited

namespace Literal

def digitValue (c : Char) : Nat :=
  if c.isDigit then c.toNat - '0'.toNat
  else if 'a' ≤ c ∧ c ≤ 'f' then c.toNat - 'a'.toNat + 10
  else c.toNat - 'A'.toNat + 10

def isHexDigit (c : Char) : Bool := c.isDigit || ('a' ≤ c && c ≤ 'f') || ('A' ≤ c && c ≤ 'F')

/-- After a digit: further digits, with single underscores between them. Gives the digits and the rest. -/
def moreDigits (good : Char → Bool) : List Char → Option (List Char × List Char)
  | [] => some ([], [])
  | '_' :: d :: cs => if good d then (moreDigits good cs).map fun (ds, r) => (d :: ds, r) else none
  | c :: cs =>
    if good c then (moreDigits good cs).map fun (ds, r) => (c :: ds, r)
    else if c == '_' then none
    else some ([], c :: cs)

def digits (good : Char → Bool) : List Char → Option (List Char × List Char)
  | c :: cs => if good c then (moreDigits good cs).map fun (ds, r) => (c :: ds, r) else none
  | [] => none

def value (base : Nat) (ds : List Char) : Nat := ds.foldl (fun n d => n * base + digitValue d) 0

def exponent (cs : List Char) : Option Int :=
  let (negative, cs) := match cs with
    | '-' :: cs => (true, cs)
    | '+' :: cs => (false, cs)
    | cs => (false, cs)
  match digits Char.isDigit cs with
  | some (ds, []) => some (if negative then -(value 10 ds : Int) else value 10 ds)
  | _ => none

def unsigned (hex : Bool) (cs : List Char) : Option Magnitude := do
  let good := if hex then isHexDigit else Char.isDigit
  let base := if hex then 16 else 10
  let (whole, rest) ← digits good cs
  if rest.isEmpty then return .integer (value base whole)
  let (fraction, rest) ← match rest with
    | '.' :: c :: rest => if good c then digits good (c :: rest) else some ([], c :: rest)
    | '.' :: rest => some ([], rest)
    | rest => some ([], rest)
  let shift : Int := if hex then -(4 * fraction.length : Nat) else -(fraction.length : Nat)
  let n := value base (whole ++ fraction)
  let radix := if hex then 2 else 10
  match rest with
  | [] => return .scaled radix n shift
  | c :: rest =>
    if (if hex then c == 'p' || c == 'P' else c == 'e' || c == 'E') then
      return .scaled radix n (shift + (← exponent rest))
    else none

/-- The number that a word of the text spells. -/
def ofWord? (word : List Char) : Option Literal :=
  let (negative, cs) := match word with
    | '-' :: cs => (true, cs)
    | '+' :: cs => (false, cs)
    | cs => (false, cs)
  let magnitude? : Option Magnitude := match cs with
    | ['i', 'n', 'f'] => some .infinite
    | ['n', 'a', 'n'] => some (.nan none)
    | 'n' :: 'a' :: 'n' :: ':' :: '0' :: 'x' :: cs =>
      match digits isHexDigit cs with
      | some (ds, []) => some (.nan (some (value 16 ds)))
      | _ => none
    | '0' :: 'x' :: cs => unsigned true cs
    | cs => unsigned false cs
  magnitude?.map (⟨negative, ·⟩)

def isInteger (l : Literal) : Bool :=
  match l.magnitude with
  | .integer _ => true
  | _ => false

/-- A natural number below `2 ^ bits`, written without a minus sign. -/
def toNat? (bits : Nat) (l : Literal) : Option Nat :=
  match l.magnitude with
  | .integer n => if !l.negative && n < 2 ^ bits then some n else none
  | _ => none

/-- An integer of `bits` bits, signed or unsigned, as its pattern of bits. -/
def toWord? (bits : Nat) (l : Literal) : Option Nat :=
  match l.magnitude with
  | .integer n =>
    if l.negative then
      if n ≤ 2 ^ (bits - 1) then some ((2 ^ bits - n) % 2 ^ bits) else none
    else if n < 2 ^ bits then some n else none
  | _ => none

/-- The bits of the float of format `f`. -/
def toFloat? (f : BinaryFormat) (l : Literal) : Option Nat :=
  let quiet := 2 ^ (f.precision - 2)
  let bits? := match l.magnitude with
    | .integer n => f.nearestScaled? 2 n 0
    | .scaled base n e => if base == 2 && (e < -2147483648 || 2147483647 < e) then none else f.nearestScaled? base n e
    | .infinite => some f.infinity
    | .nan none => some (f.infinity + quiet)
    | .nan (some p) => if p == 0 || 2 * quiet ≤ p then none else some (f.infinity + p)
  bits?.map fun b => if l.negative then b + 2 ^ (f.precision - 1 + f.exponentBits) else b

end Literal

end StrategyHost.Wasm
