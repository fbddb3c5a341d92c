import StrategyHost.Wasm.Numeric

/-! # Values and arithmetic

What the operators of `Numeric` compute. Floats are kept as their bits, so that a NaN keeps its payload: an operation
on NaNs gives the first of them, made quiet, and one that has no result gives `Float64.invalid`. -/

namespace StrategyHost.Wasm

inductive Value where
  | i32 (bits : UInt32)
  | i64 (bits : UInt64)
  | f32 (bits : UInt32)
  | f64 (bits : UInt64)
  | v128 (low high : UInt64)
  /-- A function by its number, or the null reference. -/
  | ref (func? : Option Nat)
deriving DecidableEq, Repr, Inhabited

namespace Value

def default : ValType Nat → Value
  | .i32 => i32 0
  | .i64 => i64 0
  | .f32 => f32 0
  | .f64 => f64 0
  | .v128 => v128 0 0
  | .ref _ => ref none

def ofBool (b : Bool) : Value := i32 (if b then 1 else 0)

end Value

inductive Trap where
  | unreachable | memoryBounds | tableBounds | uninitializedElement | signatureMismatch | integerOverflow
  | divideByZero | badConversion | stackExhausted | outOfFuel | interrupted
  /-- An instruction that the machine does not run. -/
  | unsupported
deriving DecidableEq, Repr, Inhabited

namespace Trap

def message : Trap → String
  | unreachable => "wasm trap: wasm \x60unreachable\x60 instruction executed"
  | memoryBounds => "wasm trap: out of bounds memory access"
  | tableBounds => "wasm trap: undefined element: out of bounds table access"
  | uninitializedElement => "wasm trap: uninitialized element"
  | signatureMismatch => "wasm trap: indirect call type mismatch"
  | integerOverflow => "wasm trap: integer overflow"
  | divideByZero => "wasm trap: integer divide by zero"
  | badConversion => "wasm trap: invalid conversion to integer"
  | stackExhausted => "wasm trap: call stack exhausted"
  | outOfFuel => "wasm trap: all fuel consumed by WebAssembly"
  | interrupted => "wasm trap: interrupt"
  | unsupported => "wasm trap: unsupported instruction"

end Trap

/-! ## Integers -/

namespace Word32

/-- The number of ones among the lowest `n` bits. -/
def countOnes (a : Nat) : Nat → Nat
  | 0 => 0
  | n + 1 => a / 2 ^ n % 2 + countOnes a n

def signExtend (bits : UInt32) (a : UInt32) : UInt32 :=
  ((a <<< (32 - bits)).toInt32 >>> (32 - bits).toInt32).toUInt32

def unary (op : IntUnary) (a : UInt32) : UInt32 :=
  match op with
  | .clz => if a == 0 then 32 else 31 - a.log2
  | .ctz => if a == 0 then 32 else (a &&& (0 - a)).log2
  | .popcnt => (countOnes a.toNat 32).toUInt32
  | .extend8 => signExtend 8 a
  | .extend16 => signExtend 16 a
  | .extend32 => a

def binary (op : IntBinary) (a b : UInt32) : Except Trap UInt32 :=
  match op with
  | .add => .ok (a + b)
  | .sub => .ok (a - b)
  | .mul => .ok (a * b)
  | .divS =>
    if b == 0 then .error .divideByZero
    else if a == 0x80000000 && b == 0xffffffff then .error .integerOverflow
    else .ok (a.toInt32 / b.toInt32).toUInt32
  | .divU => if b == 0 then .error .divideByZero else .ok (a / b)
  | .remS => if b == 0 then .error .divideByZero else .ok (a.toInt32 % b.toInt32).toUInt32
  | .remU => if b == 0 then .error .divideByZero else .ok (a % b)
  | .and => .ok (a &&& b)
  | .or => .ok (a ||| b)
  | .xor => .ok (a ^^^ b)
  | .shl => .ok (a <<< (b % 32))
  | .shrS => .ok (a.toInt32 >>> (b % 32).toInt32).toUInt32
  | .shrU => .ok (a >>> (b % 32))
  | .rotl => .ok (a <<< (b % 32) ||| a >>> ((32 - b % 32) % 32))
  | .rotr => .ok (a >>> (b % 32) ||| a <<< ((32 - b % 32) % 32))

def compare (op : IntCompare) (a b : UInt32) : Bool :=
  match op with
  | .eq => a == b
  | .ne => a != b
  | .ltS => a.toInt32 < b.toInt32
  | .ltU => a < b
  | .gtS => b.toInt32 < a.toInt32
  | .gtU => b < a
  | .leS => a.toInt32 ≤ b.toInt32
  | .leU => a ≤ b
  | .geS => b.toInt32 ≤ a.toInt32
  | .geU => b ≤ a

end Word32

namespace Word64

def signExtend (bits : UInt64) (a : UInt64) : UInt64 :=
  ((a <<< (64 - bits)).toInt64 >>> (64 - bits).toInt64).toUInt64

def unary (op : IntUnary) (a : UInt64) : UInt64 :=
  match op with
  | .clz => if a == 0 then 64 else 63 - a.log2
  | .ctz => if a == 0 then 64 else (a &&& (0 - a)).log2
  | .popcnt => (Word32.countOnes a.toNat 64).toUInt64
  | .extend8 => signExtend 8 a
  | .extend16 => signExtend 16 a
  | .extend32 => signExtend 32 a

def binary (op : IntBinary) (a b : UInt64) : Except Trap UInt64 :=
  match op with
  | .add => .ok (a + b)
  | .sub => .ok (a - b)
  | .mul => .ok (a * b)
  | .divS =>
    if b == 0 then .error .divideByZero
    else if a == 0x8000000000000000 && b == 0xffffffffffffffff then .error .integerOverflow
    else .ok (a.toInt64 / b.toInt64).toUInt64
  | .divU => if b == 0 then .error .divideByZero else .ok (a / b)
  | .remS => if b == 0 then .error .divideByZero else .ok (a.toInt64 % b.toInt64).toUInt64
  | .remU => if b == 0 then .error .divideByZero else .ok (a % b)
  | .and => .ok (a &&& b)
  | .or => .ok (a ||| b)
  | .xor => .ok (a ^^^ b)
  | .shl => .ok (a <<< (b % 64))
  | .shrS => .ok (a.toInt64 >>> (b % 64).toInt64).toUInt64
  | .shrU => .ok (a >>> (b % 64))
  | .rotl => .ok (a <<< (b % 64) ||| a >>> ((64 - b % 64) % 64))
  | .rotr => .ok (a >>> (b % 64) ||| a <<< ((64 - b % 64) % 64))

def compare (op : IntCompare) (a b : UInt64) : Bool :=
  match op with
  | .eq => a == b
  | .ne => a != b
  | .ltS => a.toInt64 < b.toInt64
  | .ltU => a < b
  | .gtS => b.toInt64 < a.toInt64
  | .gtU => b < a
  | .leS => a.toInt64 ≤ b.toInt64
  | .leU => a ≤ b
  | .geS => b.toInt64 ≤ a.toInt64
  | .geU => b ≤ a

end Word64

/-! ## Floats -/

namespace Float32Bits

def signBit : UInt32 := 0x80000000

def magnitude (a : UInt32) : UInt32 := a &&& 0x7fffffff

def isNaN (a : UInt32) : Bool := 0x7f800000 < magnitude a

/-- The NaN of an operation that has no result. -/
def invalid : UInt32 := 0xffc00000

def quiet (a : UInt32) : UInt32 := a ||| 0x00400000

def toFloat (a : UInt32) : Float32 := Float32.ofBits a

def ofFloat (x : Float32) : UInt32 := if x.isNaN then invalid else x.toBits

/-- The nearest whole number, a tie to the even one. -/
def nearest (x : Float32) : Float32 :=
  let low := x.floor
  let d := x - low
  if d < 0.5 then low
  else if 0.5 < d then low + 1
  else if (low / 2).floor * 2 == low then low else low + 1

def unary (op : FloatUnary) (a : UInt32) : UInt32 :=
  let whole (f : Float32 → Float32) : UInt32 :=
    if isNaN a then quiet a
    else if 0x4b000000 ≤ magnitude a then a
    else magnitude (ofFloat (f (toFloat a))) ||| (a &&& signBit)
  match op with
  | .abs => magnitude a
  | .neg => a ^^^ signBit
  | .ceil => whole Float32.ceil
  | .floor => whole Float32.floor
  | .trunc => whole fun x => if x < 0 then x.ceil else x.floor
  | .nearest => whole nearest
  | .sqrt => if isNaN a then quiet a else ofFloat (toFloat a).sqrt

def binary (op : FloatBinary) (a b : UInt32) : UInt32 :=
  let arith (f : Float32 → Float32 → Float32) : UInt32 :=
    if isNaN a then quiet a else if isNaN b then quiet b else ofFloat (f (toFloat a) (toFloat b))
  match op with
  | .add => arith (· + ·)
  | .sub => arith (· - ·)
  | .mul => arith (· * ·)
  | .div => arith (· / ·)
  | .min =>
    if isNaN a then quiet a else if isNaN b then quiet b
    else if toFloat a == toFloat b then a ||| b
    else if toFloat a < toFloat b then a else b
  | .max =>
    if isNaN a then quiet a else if isNaN b then quiet b
    else if toFloat a == toFloat b then a &&& b
    else if toFloat a < toFloat b then b else a
  | .copysign => magnitude a ||| (b &&& signBit)

def compare (op : FloatCompare) (a b : UInt32) : Bool :=
  let x := toFloat a
  let y := toFloat b
  match op with
  | .eq => x == y
  | .ne => !(x == y)
  | .lt => x < y
  | .gt => y < x
  | .le => x ≤ y
  | .ge => y ≤ x

end Float32Bits

namespace Float64Bits

def signBit : UInt64 := 0x8000000000000000

def magnitude (a : UInt64) : UInt64 := a &&& 0x7fffffffffffffff

def isNaN (a : UInt64) : Bool := 0x7ff0000000000000 < magnitude a

@[inherit_doc Float32Bits.invalid]
def invalid : UInt64 := 0xfff8000000000000

def quiet (a : UInt64) : UInt64 := a ||| 0x0008000000000000

def toFloat (a : UInt64) : Float := Float.ofBits a

def ofFloat (x : Float) : UInt64 := if x.isNaN then invalid else x.toBits

@[inherit_doc Float32Bits.nearest]
def nearest (x : Float) : Float :=
  let low := x.floor
  let d := x - low
  if d < 0.5 then low
  else if 0.5 < d then low + 1
  else if (low / 2).floor * 2 == low then low else low + 1

def unary (op : FloatUnary) (a : UInt64) : UInt64 :=
  let whole (f : Float → Float) : UInt64 :=
    if isNaN a then quiet a
    else if 0x4330000000000000 ≤ magnitude a then a
    else magnitude (ofFloat (f (toFloat a))) ||| (a &&& signBit)
  match op with
  | .abs => magnitude a
  | .neg => a ^^^ signBit
  | .ceil => whole Float.ceil
  | .floor => whole Float.floor
  | .trunc => whole fun x => if x < 0 then x.ceil else x.floor
  | .nearest => whole nearest
  | .sqrt => if isNaN a then quiet a else ofFloat (toFloat a).sqrt

def binary (op : FloatBinary) (a b : UInt64) : UInt64 :=
  let arith (f : Float → Float → Float) : UInt64 :=
    if isNaN a then quiet a else if isNaN b then quiet b else ofFloat (f (toFloat a) (toFloat b))
  match op with
  | .add => arith (· + ·)
  | .sub => arith (· - ·)
  | .mul => arith (· * ·)
  | .div => arith (· / ·)
  | .min =>
    if isNaN a then quiet a else if isNaN b then quiet b
    else if toFloat a == toFloat b then a ||| b
    else if toFloat a < toFloat b then a else b
  | .max =>
    if isNaN a then quiet a else if isNaN b then quiet b
    else if toFloat a == toFloat b then a &&& b
    else if toFloat a < toFloat b then b else a
  | .copysign => magnitude a ||| (b &&& signBit)

def compare (op : FloatCompare) (a b : UInt64) : Bool :=
  let x := toFloat a
  let y := toFloat b
  match op with
  | .eq => x == y
  | .ne => !(x == y)
  | .lt => x < y
  | .gt => y < x
  | .le => x ≤ y
  | .ge => y ≤ x

/-- The whole part of a float, or `none` for a NaN or an infinity. -/
def truncated? (a : UInt64) : Option Int :=
  let biased := (magnitude a).toNat / 2 ^ 52
  let fraction := (magnitude a).toNat % 2 ^ 52
  if biased == 2047 then none
  else if biased < 1023 then some 0
  else
    let mantissa := fraction + 2 ^ 52
    let n : Nat := if 1075 ≤ biased then mantissa * 2 ^ (biased - 1075) else mantissa / 2 ^ (1075 - biased)
    some (if a &&& signBit == 0 then (n : Int) else -(n : Int))

end Float64Bits

/-! ## Conversions -/

/-- The bits of the double with the value of a single. -/
def promote (a : UInt32) : UInt64 :=
  if Float32Bits.isNaN a then
    let sign : UInt64 := (a &&& Float32Bits.signBit).toUInt64 <<< 32
    let payload : UInt64 := (a &&& 0x007fffff).toUInt64 <<< 29
    Float64Bits.quiet (sign ||| (0x7ff0000000000000 : UInt64) ||| payload)
  else (Float32.ofBits a).toFloat.toBits

/-- The bits of the single nearest to a double. -/
def demote (a : UInt64) : UInt32 :=
  if Float64Bits.isNaN a then
    let sign : UInt32 := ((a &&& Float64Bits.signBit) >>> 32).toUInt32
    let payload : UInt32 := ((a &&& 0x000fffffffffffff) >>> 29).toUInt32
    Float32Bits.quiet (sign ||| (0x7f800000 : UInt32) ||| payload)
  else (Float.ofBits a).toFloat32.toBits

/-- The least and the largest integer of a type. -/
def intRange (w : IntWidth) (signed : Bool) : Int × Int :=
  match w, signed with
  | .w32, true => (-2147483648, 2147483647)
  | .w32, false => (0, 4294967295)
  | .w64, true => (-9223372036854775808, 9223372036854775807)
  | .w64, false => (0, 18446744073709551615)

def Value.ofInt (w : IntWidth) (n : Int) : Value :=
  match w with
  | .w32 => .i32 (n % 2 ^ 32).toNat.toUInt32
  | .w64 => .i64 (n % 2 ^ 64).toNat.toUInt64

def truncate (w : IntWidth) (signed : Bool) (a : UInt64) : Except Trap Value :=
  if Float64Bits.isNaN a then .error .badConversion
  else
    match Float64Bits.truncated? a with
    | none => .error .integerOverflow
    | some n =>
      let (low, high) := intRange w signed
      if low ≤ n && n ≤ high then .ok (.ofInt w n) else .error .integerOverflow

def saturate (w : IntWidth) (signed : Bool) (a : UInt64) : Value :=
  let (low, high) := intRange w signed
  if Float64Bits.isNaN a then .ofInt w 0
  else
    match Float64Bits.truncated? a with
    | none => .ofInt w (if a &&& Float64Bits.signBit == 0 then high else low)
    | some n => .ofInt w (max low (min high n))

def convert (target : FloatWidth) (signed : Bool) (a : UInt64) : Value :=
  match target, signed with
  | .w32, true => .f32 a.toInt64.toFloat32.toBits
  | .w32, false => .f32 a.toFloat32.toBits
  | .w64, true => .f64 a.toInt64.toFloat.toBits
  | .w64, false => .f64 a.toFloat.toBits

namespace Numeric

def unary (op : Numeric) (a : Value) : Except Trap Value :=
  match op, a with
  | intTest _, .i32 a => .ok (.ofBool (a == 0))
  | intTest _, .i64 a => .ok (.ofBool (a == 0))
  | intUnary _ op, .i32 a => .ok (.i32 (Word32.unary op a))
  | intUnary _ op, .i64 a => .ok (.i64 (Word64.unary op a))
  | floatUnary _ op, .f32 a => .ok (.f32 (Float32Bits.unary op a))
  | floatUnary _ op, .f64 a => .ok (.f64 (Float64Bits.unary op a))
  | wrap, .i64 a => .ok (.i32 a.toUInt32)
  | extend signed, .i32 a => .ok (.i64 (if signed then Word64.signExtend 32 a.toUInt64 else a.toUInt64))
  | truncate w _ signed, .f32 a => Wasm.truncate w signed (Wasm.promote a)
  | truncate w _ signed, .f64 a => Wasm.truncate w signed a
  | saturate w _ signed, .f32 a => .ok (Wasm.saturate w signed (Wasm.promote a))
  | saturate w _ signed, .f64 a => .ok (Wasm.saturate w signed a)
  | convert w _ signed, .i32 a =>
    .ok (Wasm.convert w signed (if signed then Word64.signExtend 32 a.toUInt64 else a.toUInt64))
  | convert w _ signed, .i64 a => .ok (Wasm.convert w signed a)
  | demote, .f64 a => .ok (.f32 (Wasm.demote a))
  | promote, .f32 a => .ok (.f64 (Wasm.promote a))
  | reinterpretFloat _, .f32 a => .ok (.i32 a)
  | reinterpretFloat _, .f64 a => .ok (.i64 a)
  | reinterpretInt _, .i32 a => .ok (.f32 a)
  | reinterpretInt _, .i64 a => .ok (.f64 a)
  | _, _ => .error .unsupported

def binary (op : Numeric) (a b : Value) : Except Trap Value :=
  match op, a, b with
  | intCompare _ op, .i32 a, .i32 b => .ok (.ofBool (Word32.compare op a b))
  | intCompare _ op, .i64 a, .i64 b => .ok (.ofBool (Word64.compare op a b))
  | intBinary _ op, .i32 a, .i32 b => (Word32.binary op a b).map .i32
  | intBinary _ op, .i64 a, .i64 b => (Word64.binary op a b).map .i64
  | floatCompare _ op, .f32 a, .f32 b => .ok (.ofBool (Float32Bits.compare op a b))
  | floatCompare _ op, .f64 a, .f64 b => .ok (.ofBool (Float64Bits.compare op a b))
  | floatBinary _ op, .f32 a, .f32 b => .ok (.f32 (Float32Bits.binary op a b))
  | floatBinary _ op, .f64 a, .f64 b => .ok (.f64 (Float64Bits.binary op a b))
  | _, _, _ => .error .unsupported

def isBinary : Numeric → Bool
  | intCompare _ _ | intBinary _ _ | floatCompare _ _ | floatBinary _ _ => true
  | _ => false

end Numeric

end StrategyHost.Wasm
