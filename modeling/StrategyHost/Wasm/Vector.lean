import StrategyHost.Wasm.Numeric

/-! # Vector and atomic instructions

The instructions on vectors of 128 bits and on shared memory differ only in name, code and shape, so each is
an entry of a table. They are read and validated; the machine does not run them. -/

namespace StrategyHost.Wasm

/-- What a vector instruction takes, besides its operands, and gives. -/
inductive VectorShape where
  | unary | binary | ternary
  /-- A vector becomes a number. -/
  | test
  | shift
  | splat (lane : Scalar)
  | extract (lane : Scalar) (lanes : Nat)
  | replace (lane : Scalar) (lanes : Nat)
  | shuffle
  /-- A load of `2 ^ log` bytes into a vector. -/
  | load (log : Nat)
  | store
  | loadLane (log : Nat)
  | storeLane (log : Nat)
deriving DecidableEq, Repr, Inhabited

structure VectorOp where
  name : String
  code : Nat
  shape : VectorShape
deriving DecidableEq, Repr, Inhabited

namespace VectorShape

/-- Whether the instruction addresses memory, and the binary logarithm of its bytes. -/
def accessLog? : VectorShape → Option Nat
  | load log | loadLane log | storeLane log => some log
  | store => some 4
  | _ => none

/-- The number of lanes of which the instruction selects one. -/
def lanes? : VectorShape → Option Nat
  | extract _ lanes | replace _ lanes => some lanes
  | loadLane log | storeLane log => some (16 / 2 ^ log)
  | _ => none

/-- The operands, without an address, and the result. -/
def signature : VectorShape → List (ValType Nat) × List (ValType Nat)
  | unary => ([.v128], [.v128])
  | binary | shuffle => ([.v128, .v128], [.v128])
  | ternary => ([.v128, .v128, .v128], [.v128])
  | test => ([.v128], [.i32])
  | shift => ([.v128, .i32], [.v128])
  | splat s => ([s.type], [.v128])
  | extract s _ => ([.v128], [s.type])
  | replace s _ => ([.v128, s.type], [.v128])
  | load _ => ([], [.v128])
  | store => ([.v128], [])
  | loadLane _ => ([.v128], [.v128])
  | storeLane _ => ([.v128], [])

end VectorShape

namespace VectorOp

/-- Entries with codes that follow one another. -/
def run (code : Nat) (entries : List (String × VectorShape)) : List VectorOp :=
  (entries.zipIdx code).map fun ((name, shape), code) => ⟨name, code, shape⟩

/-- Entries of one shape whose names share their beginning. -/
def family (code : Nat) (lane : String) (shape : VectorShape) (names : List String) : List VectorOp :=
  run code (names.map fun n => (lane ++ "." ++ n, shape))

def intComparisons : List String :=
  ["eq", "ne", "lt_s", "lt_u", "gt_s", "gt_u", "le_s", "le_u", "ge_s", "ge_u"]

def floatComparisons : List String := ["eq", "ne", "lt", "gt", "le", "ge"]

def memory : List VectorOp :=
  run 0 [("v128.load", .load 4), ("v128.load8x8_s", .load 3), ("v128.load8x8_u", .load 3),
    ("v128.load16x4_s", .load 3), ("v128.load16x4_u", .load 3), ("v128.load32x2_s", .load 3),
    ("v128.load32x2_u", .load 3), ("v128.load8_splat", .load 0), ("v128.load16_splat", .load 1),
    ("v128.load32_splat", .load 2), ("v128.load64_splat", .load 3), ("v128.store", .store)] ++
  run 84 [("v128.load8_lane", .loadLane 0), ("v128.load16_lane", .loadLane 1),
    ("v128.load32_lane", .loadLane 2), ("v128.load64_lane", .loadLane 3),
    ("v128.store8_lane", .storeLane 0), ("v128.store16_lane", .storeLane 1),
    ("v128.store32_lane", .storeLane 2), ("v128.store64_lane", .storeLane 3),
    ("v128.load32_zero", .load 2), ("v128.load64_zero", .load 3)]

def lanes : List VectorOp :=
  run 13 [("i8x16.shuffle", .shuffle), ("i8x16.swizzle", .binary), ("i8x16.splat", .splat .i32),
    ("i16x8.splat", .splat .i32), ("i32x4.splat", .splat .i32), ("i64x2.splat", .splat .i64),
    ("f32x4.splat", .splat .f32), ("f64x2.splat", .splat .f64),
    ("i8x16.extract_lane_s", .extract .i32 16), ("i8x16.extract_lane_u", .extract .i32 16),
    ("i8x16.replace_lane", .replace .i32 16), ("i16x8.extract_lane_s", .extract .i32 8),
    ("i16x8.extract_lane_u", .extract .i32 8), ("i16x8.replace_lane", .replace .i32 8),
    ("i32x4.extract_lane", .extract .i32 4), ("i32x4.replace_lane", .replace .i32 4),
    ("i64x2.extract_lane", .extract .i64 2), ("i64x2.replace_lane", .replace .i64 2),
    ("f32x4.extract_lane", .extract .f32 4), ("f32x4.replace_lane", .replace .f32 4),
    ("f64x2.extract_lane", .extract .f64 2), ("f64x2.replace_lane", .replace .f64 2)]

def comparisons : List VectorOp :=
  family 35 "i8x16" .binary intComparisons ++ family 45 "i16x8" .binary intComparisons ++
  family 55 "i32x4" .binary intComparisons ++ family 65 "f32x4" .binary floatComparisons ++
  family 71 "f64x2" .binary floatComparisons ++
  family 214 "i64x2" .binary ["eq", "ne", "lt_s", "gt_s", "le_s", "ge_s"]

def bitwise : List VectorOp :=
  family 77 "v128" .unary ["not"] ++ family 78 "v128" .binary ["and", "andnot", "or", "xor"] ++
  family 82 "v128" .ternary ["bitselect"] ++ family 83 "v128" .test ["any_true"]

def bytes : List VectorOp :=
  family 96 "i8x16" .unary ["abs", "neg", "popcnt"] ++ family 99 "i8x16" .test ["all_true", "bitmask"] ++
  family 101 "i8x16" .binary ["narrow_i16x8_s", "narrow_i16x8_u"] ++
  family 107 "i8x16" .shift ["shl", "shr_s", "shr_u"] ++
  family 110 "i8x16" .binary ["add", "add_sat_s", "add_sat_u", "sub", "sub_sat_s", "sub_sat_u"] ++
  family 118 "i8x16" .binary ["min_s", "min_u", "max_s", "max_u"] ++ family 123 "i8x16" .binary ["avgr_u"]

def halves : List VectorOp :=
  family 124 "i16x8" .unary ["extadd_pairwise_i8x16_s", "extadd_pairwise_i8x16_u"] ++
  family 128 "i16x8" .unary ["abs", "neg"] ++ family 130 "i16x8" .binary ["q15mulr_sat_s"] ++
  family 131 "i16x8" .test ["all_true", "bitmask"] ++
  family 133 "i16x8" .binary ["narrow_i32x4_s", "narrow_i32x4_u"] ++
  family 135 "i16x8" .unary
    ["extend_low_i8x16_s", "extend_high_i8x16_s", "extend_low_i8x16_u", "extend_high_i8x16_u"] ++
  family 139 "i16x8" .shift ["shl", "shr_s", "shr_u"] ++
  family 142 "i16x8" .binary ["add", "add_sat_s", "add_sat_u", "sub", "sub_sat_s", "sub_sat_u"] ++
  family 149 "i16x8" .binary ["mul", "min_s", "min_u", "max_s", "max_u"] ++
  family 155 "i16x8" .binary ["avgr_u", "extmul_low_i8x16_s", "extmul_high_i8x16_s", "extmul_low_i8x16_u",
    "extmul_high_i8x16_u"]

def words : List VectorOp :=
  family 126 "i32x4" .unary ["extadd_pairwise_i16x8_s", "extadd_pairwise_i16x8_u"] ++
  family 160 "i32x4" .unary ["abs", "neg"] ++ family 163 "i32x4" .test ["all_true", "bitmask"] ++
  family 167 "i32x4" .unary
    ["extend_low_i16x8_s", "extend_high_i16x8_s", "extend_low_i16x8_u", "extend_high_i16x8_u"] ++
  family 171 "i32x4" .shift ["shl", "shr_s", "shr_u"] ++ family 174 "i32x4" .binary ["add"] ++
  family 177 "i32x4" .binary ["sub"] ++
  family 181 "i32x4" .binary ["mul", "min_s", "min_u", "max_s", "max_u", "dot_i16x8_s"] ++
  family 188 "i32x4" .binary
    ["extmul_low_i16x8_s", "extmul_high_i16x8_s", "extmul_low_i16x8_u", "extmul_high_i16x8_u"] ++
  family 248 "i32x4" .unary ["trunc_sat_f32x4_s", "trunc_sat_f32x4_u"] ++
  family 252 "i32x4" .unary ["trunc_sat_f64x2_s_zero", "trunc_sat_f64x2_u_zero"]

def doubles : List VectorOp :=
  family 192 "i64x2" .unary ["abs", "neg"] ++ family 195 "i64x2" .test ["all_true", "bitmask"] ++
  family 199 "i64x2" .unary
    ["extend_low_i32x4_s", "extend_high_i32x4_s", "extend_low_i32x4_u", "extend_high_i32x4_u"] ++
  family 203 "i64x2" .shift ["shl", "shr_s", "shr_u"] ++ family 206 "i64x2" .binary ["add"] ++
  family 209 "i64x2" .binary ["sub"] ++ family 213 "i64x2" .binary ["mul"] ++
  family 220 "i64x2" .binary
    ["extmul_low_i32x4_s", "extmul_high_i32x4_s", "extmul_low_i32x4_u", "extmul_high_i32x4_u"]

def floats : List VectorOp :=
  family 94 "f32x4" .unary ["demote_f64x2_zero"] ++ family 95 "f64x2" .unary ["promote_low_f32x4"] ++
  family 103 "f32x4" .unary ["ceil", "floor", "trunc", "nearest"] ++
  family 116 "f64x2" .unary ["ceil", "floor"] ++ family 122 "f64x2" .unary ["trunc"] ++
  family 148 "f64x2" .unary ["nearest"] ++ family 224 "f32x4" .unary ["abs", "neg"] ++
  family 227 "f32x4" .unary ["sqrt"] ++
  family 228 "f32x4" .binary ["add", "sub", "mul", "div", "min", "max", "pmin", "pmax"] ++
  family 236 "f64x2" .unary ["abs", "neg"] ++ family 239 "f64x2" .unary ["sqrt"] ++
  family 240 "f64x2" .binary ["add", "sub", "mul", "div", "min", "max", "pmin", "pmax"] ++
  family 250 "f32x4" .unary ["convert_i32x4_s", "convert_i32x4_u"] ++
  family 254 "f64x2" .unary ["convert_low_i32x4_s", "convert_low_i32x4_u"]

def relaxed : List VectorOp :=
  family 256 "i8x16" .binary ["relaxed_swizzle"] ++
  family 257 "i32x4" .unary ["relaxed_trunc_f32x4_s", "relaxed_trunc_f32x4_u", "relaxed_trunc_f64x2_s_zero",
    "relaxed_trunc_f64x2_u_zero"] ++
  family 261 "f32x4" .ternary ["relaxed_madd", "relaxed_nmadd"] ++
  family 263 "f64x2" .ternary ["relaxed_madd", "relaxed_nmadd"] ++
  family 265 "i8x16" .ternary ["relaxed_laneselect"] ++ family 266 "i16x8" .ternary ["relaxed_laneselect"] ++
  family 267 "i32x4" .ternary ["relaxed_laneselect"] ++ family 268 "i64x2" .ternary ["relaxed_laneselect"] ++
  family 269 "f32x4" .binary ["relaxed_min", "relaxed_max"] ++
  family 271 "f64x2" .binary ["relaxed_min", "relaxed_max"] ++
  family 273 "i16x8" .binary ["relaxed_q15mulr_s", "relaxed_dot_i8x16_i7x16_s"] ++
  family 275 "i32x4" .ternary ["relaxed_dot_i8x16_i7x16_add_s"]

def table : List VectorOp :=
  memory ++ lanes ++ comparisons ++ bitwise ++ bytes ++ halves ++ words ++ doubles ++ floats ++ relaxed

end VectorOp

/-- An access to memory that is atomic. Its alignment is the number of its bytes. -/
structure AtomicOp where
  name : String
  code : Nat
  log : Nat
  /-- The operands after the address. -/
  operands : List Scalar
  result? : Option Scalar
deriving DecidableEq, Repr, Inhabited

namespace AtomicOp

def waiting : List AtomicOp := [
  ⟨"memory.atomic.notify", 0, 2, [.i32], some .i32⟩, ⟨"memory.atomic.wait32", 1, 2, [.i32, .i64], some .i32⟩,
  ⟨"memory.atomic.wait64", 2, 3, [.i64, .i64], some .i32⟩]

def loads : List AtomicOp := [
  ⟨"i32.atomic.load", 0x10, 2, [], some .i32⟩, ⟨"i64.atomic.load", 0x11, 3, [], some .i64⟩,
  ⟨"i32.atomic.load8_u", 0x12, 0, [], some .i32⟩, ⟨"i32.atomic.load16_u", 0x13, 1, [], some .i32⟩,
  ⟨"i64.atomic.load8_u", 0x14, 0, [], some .i64⟩, ⟨"i64.atomic.load16_u", 0x15, 1, [], some .i64⟩,
  ⟨"i64.atomic.load32_u", 0x16, 2, [], some .i64⟩]

def stores : List AtomicOp := [
  ⟨"i32.atomic.store", 0x17, 2, [.i32], none⟩, ⟨"i64.atomic.store", 0x18, 3, [.i64], none⟩,
  ⟨"i32.atomic.store8", 0x19, 0, [.i32], none⟩, ⟨"i32.atomic.store16", 0x1a, 1, [.i32], none⟩,
  ⟨"i64.atomic.store8", 0x1b, 0, [.i64], none⟩, ⟨"i64.atomic.store16", 0x1c, 1, [.i64], none⟩,
  ⟨"i64.atomic.store32", 0x1d, 2, [.i64], none⟩]

/-- The seven widths of a read-modify-write operation that takes `operands` values. -/
def update (code : Nat) (name : String) (operands : Nat) : List AtomicOp :=
  let entry (scalar : Scalar) (log : Nat) (name : String) (code : Nat) : AtomicOp :=
    ⟨name, code, log, List.replicate operands scalar, some scalar⟩
  [entry .i32 2 ("i32.atomic.rmw." ++ name) code, entry .i64 3 ("i64.atomic.rmw." ++ name) (code + 1),
    entry .i32 0 ("i32.atomic.rmw8." ++ name ++ "_u") (code + 2),
    entry .i32 1 ("i32.atomic.rmw16." ++ name ++ "_u") (code + 3),
    entry .i64 0 ("i64.atomic.rmw8." ++ name ++ "_u") (code + 4),
    entry .i64 1 ("i64.atomic.rmw16." ++ name ++ "_u") (code + 5),
    entry .i64 2 ("i64.atomic.rmw32." ++ name ++ "_u") (code + 6)]

def table : List AtomicOp :=
  waiting ++ loads ++ stores ++ update 0x1e "add" 1 ++ update 0x25 "sub" 1 ++ update 0x2c "and" 1 ++
  update 0x33 "or" 1 ++ update 0x3a "xor" 1 ++ update 0x41 "xchg" 1 ++ update 0x48 "cmpxchg" 2

end AtomicOp

end StrategyHost.Wasm
