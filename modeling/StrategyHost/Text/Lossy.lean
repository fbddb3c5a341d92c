import StrategyHost.Word

/-! # Text from arbitrary bytes

`decodeFrom` reads bytes as UTF-8. Each maximal part that cannot begin or continue a character becomes one character that stands for
it; `decodeLossy` takes the replacement character. -/

namespace StrategyHost.Text

def isContinuation (b : UInt8) : Bool := 0x80 ≤ b && b ≤ 0xbf

/-- How many bytes follow a first byte, and the range of the second one. -/
def sequenceOf? (b : UInt8) : Option (Nat × UInt8 × UInt8) :=
  if 0xc2 ≤ b && b ≤ 0xdf then some (1, 0x80, 0xbf)
  else if b == 0xe0 then some (2, 0xa0, 0xbf)
  else if b == 0xed then some (2, 0x80, 0x9f)
  else if 0xe1 ≤ b && b ≤ 0xef then some (2, 0x80, 0xbf)
  else if b == 0xf0 then some (3, 0x90, 0xbf)
  else if b == 0xf4 then some (3, 0x80, 0x8f)
  else if 0xf1 ≤ b && b ≤ 0xf3 then some (3, 0x80, 0xbf)
  else none

def replacement : Char := Char.ofNat 0xfffd

/-- A character whose first bytes have been read: its code so far, how many bytes are missing, and the range of the
next one. -/
structure Partial where
  code : Nat
  missing : Nat
  low : UInt8
  high : UInt8

/-- The first byte of a character, or a character of its own. -/
def beginChar (mark : Char) (b : UInt8) : Except Char Partial :=
  if b < 0x80 then .error (Char.ofNat b.toNat)
  else
    match sequenceOf? b with
    | some (n, low, high) => .ok ⟨b.toNat % 2 ^ (6 - n), n, low, high⟩
    | none => .error mark

/-- The characters of some bytes, where `mark` stands for what is none. -/
def decodeFrom (mark : Char) (state : Option Partial) : List UInt8 → List Char
  | [] => match state with
    | some _ => [mark]
    | none => []
  | b :: bs =>
    match state with
    | none =>
      match beginChar mark b with
      | .error c => c :: decodeFrom mark none bs
      | .ok p => decodeFrom mark (some p) bs
    | some p =>
      if p.low ≤ b && b ≤ p.high then
        let code := p.code * 64 + b.toNat % 64
        if p.missing ≤ 1 then Char.ofNat code :: decodeFrom mark none bs
        else decodeFrom mark (some ⟨code, p.missing - 1, 0x80, 0xbf⟩) bs
      else
        -- the part ends here, and `b` begins anew
        match beginChar mark b with
        | .error c => mark :: c :: decodeFrom mark none bs
        | .ok q => mark :: decodeFrom mark (some q) bs

def decodeLossy (bs : List UInt8) : String := String.ofList (decodeFrom replacement none bs)

end StrategyHost.Text
