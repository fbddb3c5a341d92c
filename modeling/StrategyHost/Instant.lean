import StrategyHost.Json.Decoder
import StrategyHost.Text.Blank

/-! # Points in time

An `Instant` counts seconds from the start of 1970 in UTC and the nanoseconds after them; in a leap second
the nanoseconds run on past one second. `Instant.parse?` reads a date, a time and an offset, and
`Instant.toString` writes them in UTC with as many groups of three fraction digits as are needed. -/

namespace StrategyHost

structure Instant where
  seconds : Int
  nanos : Nat
deriving DecidableEq, Repr, Inhabited

namespace Instant

def le (a b : Instant) : Bool := a.seconds < b.seconds || (a.seconds = b.seconds && a.nanos ≤ b.nanos)

def addSeconds (t : Instant) (n : Int) : Instant := { t with seconds := t.seconds + n }

/-! ### Civil dates -/

def isLeap (year : Int) : Bool := year % 4 = 0 && (year % 100 != 0 || year % 400 = 0)

def daysInMonth (year : Int) (month : Nat) : Nat :=
  match month with
  | 1 | 3 | 5 | 7 | 8 | 10 | 12 => 31
  | 4 | 6 | 9 | 11 => 30
  | 2 => if isLeap year then 29 else 28
  | _ => 0

/-- Days from 1970-01-01 to a date. Years count from March, so that the leap day comes last. -/
def daysFromCivil (year : Int) (month day : Nat) : Int :=
  let y := if month ≤ 2 then year - 1 else year
  let era := y / 400
  let yearOfEra := y % 400
  let shifted : Int := if month ≤ 2 then month + 9 else month - 3
  let dayOfYear := (153 * shifted + 2) / 5 + day - 1
  era * 146097 + (yearOfEra * 365 + yearOfEra / 4 - yearOfEra / 100 + dayOfYear) - 719468

/-- The date of a day counted from 1970-01-01. -/
def civilFromDays (days : Int) : Int × Nat × Nat :=
  let z := days + 719468
  let era := z / 146097
  let dayOfEra := z % 146097
  let yearOfEra := (dayOfEra - dayOfEra / 1460 + dayOfEra / 36524 - dayOfEra / 146096) / 365
  let dayOfYear := dayOfEra - (365 * yearOfEra + yearOfEra / 4 - yearOfEra / 100)
  let shifted := (5 * dayOfYear + 2) / 153
  let day := dayOfYear - (153 * shifted + 2) / 5 + 1
  let month := if shifted < 10 then shifted + 3 else shifted - 9
  let year := yearOfEra + era * 400 + (if month ≤ 2 then 1 else 0)
  (year, month.toNat, day.toNat)

/-! ### Writing -/

/-- `n` in decimal with at least `width` digits. -/
def padded (width n : Nat) : List Char :=
  let ds := Double.digitsOf n
  List.replicate (width - ds.length) '0' ++ ds

def writeYear (year : Int) : List Char :=
  if 0 ≤ year ∧ year ≤ 9999 then padded 4 year.toNat
  else (if year < 0 then '-' else '+') :: padded 4 year.natAbs

/-- The fraction in 0, 3, 6 or 9 digits. -/
def writeFraction (nanos : Nat) : List Char :=
  if nanos = 0 then []
  else if nanos % 1000000 = 0 then '.' :: padded 3 (nanos / 1000000)
  else if nanos % 1000 = 0 then '.' :: padded 6 (nanos / 1000)
  else '.' :: padded 9 nanos

/-- The time in UTC; a leap second is second 60. -/
def toChars (t : Instant) : List Char :=
  let (year, month, day) := civilFromDays (t.seconds / 86400)
  let time := (t.seconds % 86400).toNat
  let leap := t.nanos / 1000000000
  writeYear year ++ '-' :: padded 2 month ++ '-' :: padded 2 day ++ 'T' :: padded 2 (time / 3600)
    ++ ':' :: padded 2 (time / 60 % 60) ++ ':' :: padded 2 (time % 60 + leap)
    ++ writeFraction (t.nanos % 1000000000) ++ ['Z']

protected def toString (t : Instant) : String := String.ofList t.toChars

/-! ### Reading -/

def readNumber (width : Nat) (cs : List Char) : Option (Nat × List Char) :=
  let ds := (cs.take width).takeWhile Char.isDigit
  if ds.isEmpty then none
  else some (ds.foldl (fun acc c => acc * 10 + (c.toNat - 48)) 0, cs.drop ds.length)

/-- A number of at most two digits, which blanks may precede. -/
def readField (cs : List Char) : Option (Nat × List Char) := readNumber 2 (Text.skipBlanks cs)

/-- A separator, which blanks may precede. -/
def readMark (c : Char) (cs : List Char) : Option (List Char) :=
  match Text.skipBlanks cs with
  | d :: r => if d = c then some r else none
  | [] => none

/-- A year of at most four digits, or of any length behind a sign. -/
def readYear (cs : List Char) : Option (Int × List Char) :=
  match Text.skipBlanks cs with
  | '-' :: r => (readNumber r.length r).map fun (n, r) => (-(n : Int), r)
  | '+' :: r => (readNumber r.length r).map fun (n, r) => ((n : Int), r)
  | r => (readNumber 4 r).map fun (n, r) => ((n : Int), r)

/-- The nanoseconds of a fraction; digits beyond the ninth are skipped. -/
def readFraction (cs : List Char) : Option (Nat × List Char) :=
  match cs with
  | '.' :: r =>
    let ds := (r.take 9).takeWhile Char.isDigit
    if ds.isEmpty then none
    else
      let n := ds.foldl (fun acc c => acc * 10 + (c.toNat - 48)) 0
      some (n * 10 ^ (9 - ds.length), (r.drop ds.length).dropWhile Char.isDigit)
  | _ => some (0, cs)

def readPair (cs : List Char) : Option (Nat × List Char) :=
  match cs with
  | a :: b :: r => if a.isDigit ∧ b.isDigit then some ((a.toNat - 48) * 10 + (b.toNat - 48), r) else none
  | _ => none

/-- The offset from UTC in seconds: `Z`, the word `UTC`, or a sign with hours and minutes. -/
def readOffset (cs : List Char) : Option (Int × List Char) :=
  let signed (negative : Bool) (r : List Char) : Option (Int × List Char) := do
    let (hours, r) ← readPair r
    let (minutes, r) ← readPair (r.dropWhile fun c => c = ':' || Text.isBlank c)
    if 60 ≤ minutes then none
    else
      let s : Int := (hours * 3600 + minutes * 60 : Nat)
      some (if negative then -s else s, r)
  match cs with
  | a :: b :: c :: r =>
    if [a.toUpper, b.toUpper, c.toUpper] = ['U', 'T', 'C'] then some (0, r)
    else if a = 'Z' ∨ a = 'z' then some (0, b :: c :: r)
    else if a = '+' then signed false (b :: c :: r)
    else if a = '-' ∨ a = '−' then signed true (b :: c :: r)
    else none
  | a :: r => if a = 'Z' ∨ a = 'z' then some (0, r) else none
  | [] => none

/-- Reads a date, a time and an offset. Second 60 is a leap second. -/
def parse? (s : String) : Option Instant := do
  let (year, cs) ← readYear s.toList
  let cs ← readMark '-' cs
  let (month, cs) ← readField cs
  let cs ← readMark '-' cs
  let (day, cs) ← readField cs
  let cs ← match cs with
    | c :: r => if c = 'T' ∨ c = 't' ∨ c = ' ' then some r else none
    | [] => none
  let (hour, cs) ← readField cs
  let cs ← readMark ':' cs
  let (minute, cs) ← readField cs
  let cs ← readMark ':' cs
  let (second, cs) ← readField cs
  let (nanos, cs) ← readFraction cs
  let (offset, cs) ← readOffset (Text.skipBlanks cs)
  let inRange := (Text.skipBlanks cs).isEmpty ∧ 1 ≤ month ∧ month ≤ 12 ∧ 1 ≤ day ∧ day ≤ daysInMonth year month
    ∧ hour < 24 ∧ minute < 60 ∧ second ≤ 60 ∧ offset.natAbs < 86400 ∧ -262143 ≤ year ∧ year ≤ 262142
  if inRange then
    let leap := second / 60
    let time : Int := (hour * 3600 + minute * 60 + (second - leap) : Nat)
    some ⟨daysFromCivil year month day * 86400 + time - offset, nanos + leap * 1000000000⟩
  else none

def toJson (t : Instant) : Json := .str t.toString

def decoder : Json.Decoder Instant := Json.Decoder.string.bind fun s =>
  match parse? s with
  | some t => .ok t
  | none => Json.mismatch

end Instant

end StrategyHost
