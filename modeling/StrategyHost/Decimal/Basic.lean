import StrategyHost.Double.Text

/-! # Decimals

A decimal is a sign, a mantissa below `2 ^ 96` and a scale up to 28: `± mantissa / 10 ^ scale`. Trailing
zeros are kept (`1.50` and `1.5` differ as decimals but compare equal). `parse?` reads positional text,
`parseScientific?` text with an exponent, and `toString` writes a decimal in full. -/

namespace StrategyHost

structure Decimal where
  negative : Bool
  mantissa : Nat
  scale : Nat
  mantissa_lt : mantissa < 2 ^ 96
  scale_le : scale ≤ 28
deriving DecidableEq, Repr

namespace Decimal

/-- The decimal with the given parts, when they are in range; zero has no sign. -/
def ofParts? (negative : Bool) (mantissa scale : Nat) : Option Decimal :=
  if h : mantissa < 2 ^ 96 ∧ scale ≤ 28 then some ⟨negative && mantissa != 0, mantissa, scale, h.1, h.2⟩
  else none

def zero : Decimal := ⟨false, 0, 0, by decide, by decide⟩

instance : Inhabited Decimal := ⟨zero⟩

/-- The decimal of a whole number; zero when it does not fit, which no 64-bit number does. -/
def ofInt (n : Int) : Decimal := (ofParts? (n < 0) n.natAbs 0).getD zero

def isZero (d : Decimal) : Bool := d.mantissa = 0

def numerator (d : Decimal) : Int := if d.negative then -d.mantissa else d.mantissa

def lt (a b : Decimal) : Bool := a.numerator * 10 ^ b.scale < b.numerator * 10 ^ a.scale

def le (a b : Decimal) : Bool := a.numerator * 10 ^ b.scale ≤ b.numerator * 10 ^ a.scale

/-! ### Text -/

protected def toString (d : Decimal) : String :=
  let body := (Double.Scientific.mk d.mantissa (-(d.scale : Int))).positional false
  String.ofList (if d.negative then '-' :: body else body)

instance : ToString Decimal := ⟨Decimal.toString⟩

/-- Rounds at a digit that no longer fits: a half goes up. What follows the digit is not looked at. -/
def roundAt (mantissa scale : Nat) (c : Char) : Option (Nat × Nat) :=
  if c.isDigit then
    if c.toNat - 48 < 5 then some (mantissa, scale)
    else if mantissa + 1 < 2 ^ 96 then some (mantissa + 1, scale)
    else if scale = 0 then none
    else some ((mantissa + 5) / 10, scale - 1)
  else if c = '_' ∨ c = '.' then some (mantissa, scale)
  else none

/-- Reads digits with at most one point; `_` may stand anywhere after the first digit. `point` is whether
the point has been seen and `some` whether a digit has. -/
def scanDigits (point seen : Bool) (mantissa scale : Nat) : List Char → Option (Nat × Nat)
  | [] => if seen then some (mantissa, scale) else none
  | c :: cs =>
    if point ∧ 28 ≤ scale then roundAt mantissa scale c
    else if c.isDigit then
      let next := mantissa * 10 + (c.toNat - 48)
      if next < 2 ^ 96 then scanDigits point true next (if point then scale + 1 else 0) cs
      else if point then roundAt mantissa scale c
      else none
    else if c = '.' ∧ ¬ point then scanDigits true seen mantissa scale cs
    else if c = '_' ∧ seen then scanDigits point seen mantissa scale cs
    else none

def splitSign : List Char → Bool × List Char
  | '-' :: cs => (true, cs)
  | '+' :: cs => (false, cs)
  | cs => (false, cs)

def parseChars? (cs : List Char) : Option Decimal := do
  let (negative, digits) := splitSign cs
  let (mantissa, scale) ← scanDigits false false 0 0 digits
  ofParts? negative mantissa scale

/-- Reads a decimal without exponent. Digits beyond the range of the mantissa or the scale are rounded
off behind the point and refused before it. -/
def parse? (s : String) : Option Decimal := parseChars? s.toList

/-- An unsigned number of 32 bits, with an optional plus. -/
def parseExponent? (cs : List Char) : Option Nat :=
  let ds := match cs with
    | '+' :: r => r
    | r => r
  if ds.isEmpty ∨ ¬ ds.all Char.isDigit then none
  else
    let n := ds.foldl (fun acc c => if acc < 2 ^ 32 then acc * 10 + (c.toNat - 48) else acc) 0
    if n < 2 ^ 32 then some n else none

/-- Reads a decimal with an exponent of at most 28. An exponent that exceeds the scale gives a whole
number. -/
def parseScientific? (s : String) : Option Decimal := do
  let cs := s.toList
  let isMark := fun c => c = 'e' || c = 'E'
  let base ← parseChars? (cs.takeWhile fun c => !isMark c)
  match cs.dropWhile fun c => !isMark c with
  | [] => none
  | _ :: '-' :: rest =>
    let e ← parseExponent? rest
    if 28 < e then none
    else if h : base.scale + e ≤ 28 then some { base with scale := base.scale + e, scale_le := h }
    else none
  | _ :: rest =>
    let e ← parseExponent? rest
    if e ≤ base.scale then ofParts? base.negative base.mantissa (base.scale - e)
    else if 28 < e then none
    else ofParts? base.negative (base.mantissa * 10 ^ (e - base.scale)) 0

def read? (s : String) : Option Decimal := parse? s <|> parseScientific? s

/-! ### Arithmetic -/

/-- `n / 10 ^ k` rounded to the nearest whole number, a tie to the even one. -/
def shiftRight (n k : Nat) : Nat := Double.roundQuotient n (10 ^ k)

/-- Rounds to at most `places` places, a tie to the even digit. -/
def roundTo (d : Decimal) (places : Nat) : Decimal :=
  if d.scale ≤ places then d
  else (ofParts? d.negative (shiftRight d.mantissa (d.scale - places)) places).getD zero

/-- Drops as few places as make the mantissa fit, `none` when that takes more than there are. -/
def fit? (negative : Bool) (mantissa scale : Nat) : Nat → Option Decimal
  | 0 => none
  | fuel + 1 =>
    let dropped := 29 - (fuel + 1)
    if scale < dropped then none
    else
      match ofParts? negative (shiftRight mantissa dropped) (scale - dropped) with
      | some d => some d
      | none => fit? negative mantissa scale fuel

def neg (d : Decimal) : Decimal := { d with negative := !d.negative && d.mantissa != 0 }

/-- The difference at the larger scale, rounded to the places that fit; `none` when it is out of range. -/
def sub? (a b : Decimal) : Option Decimal :=
  if a.isZero then some (if b.isZero then b else { b with negative := !b.negative })
  else if b.isZero then some a
  else
    let scale := max a.scale b.scale
    let n := a.numerator * 10 ^ (scale - a.scale) - b.numerator * 10 ^ (scale - b.scale)
    fit? (n < 0) n.natAbs scale 29

/-! ### Doubles -/

/-- The nearest whole double, a half away from zero. -/
def roundFloat (x : Float) : Float := x.round

/-- The magnitude as a double: the whole part plus the fraction, rounded at the scale. -/
def magnitudeToFloat (mantissa scale : Nat) : Float :=
  if scale = 0 then Float.ofNat mantissa
  else
    let p := 10 ^ scale
    let whole := Float.ofNat (mantissa / p)
    let rest := Float.ofNat (mantissa % p)
    let unit := Float.ofNat p
    let fraction := rest / unit
    if mantissa % p = 0 then whole
    else roundFloat ((whole + fraction) * unit) / unit

def toFloat (d : Decimal) : Float :=
  let x := magnitudeToFloat d.mantissa d.scale
  if d.negative then -x else x

/-- A number on its way from binary to decimal: `bits · 10 ^ exponent`. -/
structure Shift where
  bits : Nat
  exponent : Int

/-- Takes `n` powers of two out of the denominator: halves an even number and multiplies an odd one by
five, unless that exceeds the mantissa. -/
def Shift.halve (s : Shift) : Nat → Shift
  | 0 => s
  | n + 1 =>
    if s.bits % 2 = 0 then Shift.halve ⟨s.bits / 2, s.exponent + 1⟩ n
    else if s.bits * 5 < 2 ^ 96 then Shift.halve ⟨s.bits * 5, s.exponent⟩ n
    else Shift.halve ⟨s.bits / 2, s.exponent + 1⟩ n

/-- Takes `n` powers of two into the numerator; `none` when the number is too large for that. -/
def Shift.double (s : Shift) : Nat → Option Shift
  | 0 => some s
  | n + 1 =>
    if s.bits < 2 ^ 95 then Shift.double ⟨s.bits * 2, s.exponent - 1⟩ n
    else if 2 * s.exponent > ((n + 1 : Nat) : Int) then none
    else Shift.double ⟨s.bits / 5, s.exponent⟩ n

/-- Multiplies out `n` powers of ten; `none` when the mantissa overflows. -/
def Shift.raise (s : Shift) : Nat → Option Shift
  | 0 => some s
  | n + 1 =>
    if s.bits * 10 < 2 ^ 96 then Shift.raise ⟨s.bits * 10, s.exponent - 1⟩ n else none

/-- Divides by ten, a half going up. -/
def Shift.lower (s : Shift) : Shift :=
  let q := s.bits / 10
  if q = 0 then ⟨0, 0⟩ else ⟨if 5 ≤ s.bits % 10 then q + 1 else q, s.exponent + 1⟩

/-- Brings the exponent up to `-28`. -/
def Shift.clip (s : Shift) : Nat → Shift
  | 0 => s
  | n + 1 => if s.exponent < -28 then s.lower.clip n else s

/-- Drops digits that a double does not have: from `2 ^ 52` on, as long as there are places. -/
def Shift.coarsen (s : Shift) : Nat → Shift
  | 0 => s
  | n + 1 =>
    if s.exponent < 0 ∧ 2 ^ 52 ≤ s.bits then
      Shift.coarsen ⟨s.bits / 10 + (if 5 ≤ s.bits % 10 then 1 else 0), s.exponent + 1⟩ n
    else s

/-- Strips trailing zeros behind the point. -/
def Shift.strip (s : Shift) : Nat → Shift
  | 0 => s
  | n + 1 => if s.exponent < 0 ∧ s.bits % 10 = 0 then Shift.strip ⟨s.bits / 10, s.exponent + 1⟩ n else s

/-- The decimal of a double, to the digits that a double has; `none` when it is not finite or too large. -/
def ofFloat? (x : Float) : Option Decimal := do
  let p ← Double.parts? x
  let s : Shift := ⟨p.mantissa, p.exponent⟩
  let s ← if p.exponent < 0 then some (s.halve (-p.exponent).toNat) else Shift.double s p.exponent.toNat
  let s ← s.raise s.exponent.toNat
  let s := ((s.clip 1200).coarsen 30).strip 30
  if h : s.bits < 2 ^ 96 ∧ (-s.exponent).toNat ≤ 28 then
    some ⟨Double.isNegative x, s.bits, (-s.exponent).toNat, h.1, h.2⟩
  else none

/-- A double that is no decimal counts as zero. -/
def ofFloat (x : Float) : Decimal := (ofFloat? x).getD zero

end Decimal

end StrategyHost
