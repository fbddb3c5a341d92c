import StrategyHost.Double.Shortest

/-! # Spellings of a double

`plain` writes a double without an exponent; `fixed` writes it with a given number of places, ties to
the even digit. The spelling used in JSON documents is `Json.spellFloat`. -/

namespace StrategyHost.Double

def digitsOf (n : Nat) : List Char := Nat.toDigits 10 n

/-- The digits of `s` written with a point and no exponent; `keepPoint` writes whole numbers with `.0`. -/
def Scientific.positional (s : Scientific) (keepPoint : Bool) : List Char :=
  let ds := digitsOf s.digits
  if 0 ≤ s.exponent then
    ds ++ List.replicate s.exponent.toNat '0' ++ (if keepPoint then ['.', '0'] else [])
  else
    let places := (-s.exponent).toNat
    let padded := List.replicate (places + 1 - ds.length) '0' ++ ds
    let whole := padded.length - places
    padded.take whole ++ '.' :: padded.drop whole

/-- A finite double in full, without an exponent and without a point when it is whole. -/
def plain (x : Float) : List Char :=
  match parts? x with
  | none => if x.isNaN then "NaN".toList else if isNegative x then "-inf".toList else "inf".toList
  | some p => (if isNegative x then ['-'] else []) ++ p.shortest.positional false

/-- `num / den` rounded to the nearest whole number, a tie to the even one. -/
def roundQuotient (num den : Nat) : Nat :=
  let q := num / den
  let r := num % den
  if 2 * r < den ∨ (2 * r = den ∧ q % 2 = 0) then q else q + 1

/-- A double with exactly `places` digits after the point. -/
def fixed (places : Nat) (x : Float) : List Char :=
  match parts? x with
  | none => plain x
  | some p =>
    let (f, g) := scales p.exponent 0
    let scaled := roundQuotient (p.mantissa * f * 10 ^ places) g
    let sign := if isNegative x then ['-'] else []
    if places = 0 then sign ++ digitsOf scaled
    else sign ++ (Scientific.mk scaled (-(places : Int))).positional false

end StrategyHost.Double
