import StrategyHost.Word

/-! # The nearest binary float

`BinaryFormat.nearest?` rounds a ratio of natural numbers to the nearest float of a format, a tie to the even
neighbour, and gives its bits. -/

namespace StrategyHost

/-- A binary interchange format: the digits of its significand, and the exponent of its least bit. -/
structure BinaryFormat where
  precision : Nat
  leastExponent : Int
  exponentBits : Nat
deriving DecidableEq, Repr

namespace BinaryFormat

def single : BinaryFormat := ⟨24, -149, 8⟩

def double : BinaryFormat := ⟨53, -1074, 11⟩

def infinity (f : BinaryFormat) : Nat := (2 ^ f.exponentBits - 1) * 2 ^ (f.precision - 1)

/-- The quotient rounded to nearest, a tie to even. -/
def roundDiv (num den : Nat) : Nat :=
  let q := num / den
  let r := num % den
  if den < 2 * r || (2 * r == den && q % 2 == 1) then q + 1 else q

/-- The exponent of the last place of `num / den` in the format. -/
def exponentOf (f : BinaryFormat) (num den : Nat) : Int :=
  let e : Int := num.log2 - den.log2 - f.precision
  -- `num / den` lies in `[2 ^ (e + precision - 1), 2 ^ (e + precision + 1))`
  let scaled (k : Int) : Nat × Nat := if k < 0 then (num * 2 ^ (-k).toNat, den) else (num, den * 2 ^ k.toNat)
  let (n, d) := scaled (e + 1)
  let e := if n < d * 2 ^ (f.precision - 1) then e else e + 1
  max e f.leastExponent

/-- The bits of the float nearest to `num / den`, if it is finite. -/
def nearest? (f : BinaryFormat) (num den : Nat) : Option Nat :=
  if num == 0 then some 0
  else
    let e := f.exponentOf num den
    let q := if e < 0 then roundDiv (num * 2 ^ (-e).toNat) den else roundDiv num (den * 2 ^ e.toNat)
    let bits := (e - f.leastExponent).toNat * 2 ^ (f.precision - 1) + q
    if bits < f.infinity then some bits else none

/-- The bits of the positive float nearest to `digits · base ^ exponent`, if it is finite. Exponents that are far
outside the range need no exact arithmetic. -/
def nearestScaled? (f : BinaryFormat) (base digits : Nat) (exponent : Int) : Option Nat :=
  let magnitude : Int := exponent + (if base == 2 then (digits.log2 : Int) else (Nat.toDigits 10 digits).length)
  if digits == 0 then some 0
  else if 4000 < magnitude then none
  else if magnitude < -4000 then some 0
  else if exponent < 0 then f.nearest? digits (base ^ (-exponent).toNat)
  else f.nearest? (digits * base ^ exponent.toNat) 1

end BinaryFormat

end StrategyHost
