import StrategyHost.Wasm.Value

/-! # Linear memory

A `Memory` has a size and the bytes that were ever written, from address zero on; bytes behind them are zero. Reads
and writes past the size give nothing. -/

namespace StrategyHost.Wasm

structure Memory where
  bytes : ByteArray
  size : Nat

namespace Memory

def pageSize : Nat := 65536

def empty : Memory := ⟨.empty, 0⟩

def ofPages (n : Nat) : Memory := ⟨.empty, n * pageSize⟩

def pages (m : Memory) : Nat := m.size / pageSize

def byte (m : Memory) (a : Nat) : UInt8 := if h : a < m.bytes.size then m.bytes[a] else 0

/-- The `n` bytes from `a` on as a number, the lowest byte first. -/
def number (m : Memory) (a : Nat) : Nat → Nat
  | 0 => 0
  | n + 1 => (m.byte a).toNat + 256 * m.number (a + 1) n

def readNumber? (m : Memory) (a n : Nat) : Option Nat := if a + n ≤ m.size then some (m.number a n) else none

def read? (m : Memory) (a n : Nat) : Option (List UInt8) :=
  if a + n ≤ m.size then some ((List.range n).map fun i => m.byte (a + i)) else none

def pad (bytes : ByteArray) : Nat → ByteArray
  | 0 => bytes
  | n + 1 => pad (bytes.push 0) n

def setByte (bytes : ByteArray) (a : Nat) (b : UInt8) : ByteArray :=
  if h : a < bytes.size then bytes.set a b h else (pad bytes (a - bytes.size)).push b

def setBytes (bytes : ByteArray) (a : Nat) : List UInt8 → ByteArray
  | [] => bytes
  | b :: bs => setBytes (setByte bytes a b) (a + 1) bs

def setNumber (bytes : ByteArray) (a : Nat) (v : Nat) : Nat → ByteArray
  | 0 => bytes
  | n + 1 => setNumber (setByte bytes a (v % 256).toUInt8) (a + 1) (v / 256) n

def writeNumber? (m : Memory) (a n v : Nat) : Option Memory :=
  let ⟨bytes, size⟩ := m
  if a + n ≤ size then some ⟨setNumber bytes a v n, size⟩ else none

def write? (m : Memory) (a : Nat) (bs : List UInt8) : Option Memory :=
  let ⟨bytes, size⟩ := m
  if a + bs.length ≤ size then some ⟨setBytes bytes a bs, size⟩ else none

def setFill (bytes : ByteArray) (a : Nat) (b : UInt8) : Nat → ByteArray
  | 0 => bytes
  | n + 1 => setFill (setByte bytes a b) (a + 1) b n

def fill? (m : Memory) (a : Nat) (b : UInt8) (n : Nat) : Option Memory :=
  let ⟨bytes, size⟩ := m
  if a + n ≤ size then some ⟨setFill bytes a b n, size⟩ else none

def grow (m : Memory) (n : Nat) : Memory := { m with size := m.size + n * pageSize }

end Memory

end StrategyHost.Wasm
