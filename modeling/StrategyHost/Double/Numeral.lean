import StrategyHost.Double.Nearest

/-! # Decimal numerals of doubles

`Numeral` is a decimal numeral taken apart, and `Numeral.toDouble` the double nearest to it. `Double.read?` reads a whole
text as a double, the words for infinity and for no number included. -/

namespace StrategyHost.Double

/-- A decimal numeral: the sign, the digits before and behind the point, and the exponent. -/
structure Numeral where
  negative : Bool
  whole : List Char
  fraction : List Char
  exponent : Int
deriving DecidableEq, Repr, Inhabited

namespace Numeral

def natOf (digits : List Char) : Nat := digits.foldl (fun n c => 10 * n + (c.toNat - '0'.toNat)) 0

/-- The nearest double. A numeral beyond all finite ones gives an infinity. -/
def toDouble (n : Numeral) : Float :=
  let bits := (BinaryFormat.double.nearestScaled? 10 (natOf (n.whole ++ n.fraction))
    (n.exponent - n.fraction.length)).getD BinaryFormat.double.infinity
  let x := Float.ofBits bits.toUInt64
  if n.negative then -x else x

/-- The exponent behind a mantissa, `e` and a sign included, that takes up all the text. -/
def readExponent? : List Char → Option Int
  | [] => some 0
  | c :: cs =>
    if c == 'e' || c == 'E' then
      let (negative, digits) := match cs with
        | '-' :: ds => (true, ds)
        | '+' :: ds => (false, ds)
        | ds => (false, ds)
      if digits.isEmpty || !digits.all Char.isDigit then none
      else some (if negative then -(natOf digits : Int) else natOf digits)
    else none

/-- Reads a numeral without sign. Digits may be missing on one side of the point. -/
def readUnsigned? (negative : Bool) (cs : List Char) : Option Numeral :=
  let whole := cs.takeWhile Char.isDigit
  let (fraction, rest) := match cs.dropWhile Char.isDigit with
    | '.' :: rest => (rest.takeWhile Char.isDigit, rest.dropWhile Char.isDigit)
    | rest => ([], rest)
  if whole.isEmpty && fraction.isEmpty then none
  else (readExponent? rest).map fun exponent => ⟨negative, whole, fraction, exponent⟩

end Numeral

def infinite : Float := Float.ofBits BinaryFormat.double.infinity.toUInt64

/-- The quiet NaN without payload. -/
def quietNaN : Float := Float.ofBits (BinaryFormat.double.infinity + 2 ^ 51).toUInt64

def read? (text : String) : Option Float :=
  let (negative, cs) := match text.toList with
    | '-' :: cs => (true, cs)
    | '+' :: cs => (false, cs)
    | cs => (false, cs)
  let word := String.ofList (cs.map Char.toLower)
  if word = "inf" || word = "infinity" then some (if negative then -infinite else infinite)
  else if word = "nan" then some quietNaN
  else (Numeral.readUnsigned? negative cs).map Numeral.toDouble

end StrategyHost.Double
