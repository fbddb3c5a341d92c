import StrategyHost.Wasm.Type
import StrategyHost.Word

/-! # Numeric instructions

The operators on integers and floats that take nothing but operands, in the order of their codes
(`Numeric.table`, `Numeric.saturating`), and the forms of memory access. -/

namespace StrategyHost.Wasm

inductive IntWidth where
  | w32 | w64
deriving DecidableEq, Repr, Inhabited

inductive FloatWidth where
  | w32 | w64
deriving DecidableEq, Repr, Inhabited

def IntWidth.type {ι : Type} : IntWidth → ValType ι
  | w32 => .i32
  | w64 => .i64

def FloatWidth.type {ι : Type} : FloatWidth → ValType ι
  | w32 => .f32
  | w64 => .f64

inductive IntUnary where
  | clz | ctz | popcnt | extend8 | extend16 | extend32
deriving DecidableEq, Repr, Inhabited

inductive IntBinary where
  | add | sub | mul | divS | divU | remS | remU | and | or | xor | shl | shrS | shrU | rotl | rotr
deriving DecidableEq, Repr, Inhabited

inductive IntCompare where
  | eq | ne | ltS | ltU | gtS | gtU | leS | leU | geS | geU
deriving DecidableEq, Repr, Inhabited

inductive FloatUnary where
  | abs | neg | ceil | floor | trunc | nearest | sqrt
deriving DecidableEq, Repr, Inhabited

inductive FloatBinary where
  | add | sub | mul | div | min | max | copysign
deriving DecidableEq, Repr, Inhabited

inductive FloatCompare where
  | eq | ne | lt | gt | le | ge
deriving DecidableEq, Repr, Inhabited

inductive Numeric where
  | intTest (w : IntWidth)
  | intCompare (w : IntWidth) (op : IntCompare)
  | floatCompare (w : FloatWidth) (op : FloatCompare)
  | intUnary (w : IntWidth) (op : IntUnary)
  | intBinary (w : IntWidth) (op : IntBinary)
  | floatUnary (w : FloatWidth) (op : FloatUnary)
  | floatBinary (w : FloatWidth) (op : FloatBinary)
  | wrap
  | extend (signed : Bool)
  | truncate (target : IntWidth) (source : FloatWidth) (signed : Bool)
  | saturate (target : IntWidth) (source : FloatWidth) (signed : Bool)
  | convert (target : FloatWidth) (source : IntWidth) (signed : Bool)
  | demote
  | promote
  | reinterpretFloat (w : FloatWidth)
  | reinterpretInt (w : IntWidth)
deriving DecidableEq, Repr, Inhabited

namespace Numeric

def params {ι : Type} : Numeric → List (ValType ι)
  | intTest w | intUnary w _ | reinterpretInt w => [w.type]
  | intCompare w _ | intBinary w _ => [w.type, w.type]
  | floatUnary w _ | reinterpretFloat w => [w.type]
  | floatCompare w _ | floatBinary w _ => [w.type, w.type]
  | wrap => [.i64]
  | extend _ => [.i32]
  | truncate _ w _ | saturate _ w _ => [w.type]
  | convert _ w _ => [w.type]
  | demote => [.f64]
  | promote => [.f32]

def result {ι : Type} : Numeric → ValType ι
  | intTest _ | intCompare _ _ | floatCompare _ _ => .i32
  | intUnary w _ | intBinary w _ | truncate w _ _ | saturate w _ _ => w.type
  | floatUnary w _ | floatBinary w _ | convert w _ _ => w.type
  | wrap => .i32
  | extend _ => .i64
  | demote => .f32
  | promote => .f64
  | reinterpretFloat .w32 => .i32
  | reinterpretFloat .w64 => .i64
  | reinterpretInt .w32 => .f32
  | reinterpretInt .w64 => .f64

def intComparisons : List (String × IntCompare) :=
  [("eq", .eq), ("ne", .ne), ("lt_s", .ltS), ("lt_u", .ltU), ("gt_s", .gtS), ("gt_u", .gtU), ("le_s", .leS),
    ("le_u", .leU), ("ge_s", .geS), ("ge_u", .geU)]

def floatComparisons : List (String × FloatCompare) :=
  [("eq", .eq), ("ne", .ne), ("lt", .lt), ("gt", .gt), ("le", .le), ("ge", .ge)]

def intUnaries : List (String × IntUnary) := [("clz", .clz), ("ctz", .ctz), ("popcnt", .popcnt)]

def intBinaries : List (String × IntBinary) :=
  [("add", .add), ("sub", .sub), ("mul", .mul), ("div_s", .divS), ("div_u", .divU), ("rem_s", .remS),
    ("rem_u", .remU), ("and", .and), ("or", .or), ("xor", .xor), ("shl", .shl), ("shr_s", .shrS),
    ("shr_u", .shrU), ("rotl", .rotl), ("rotr", .rotr)]

def floatUnaries : List (String × FloatUnary) :=
  [("abs", .abs), ("neg", .neg), ("ceil", .ceil), ("floor", .floor), ("trunc", .trunc),
    ("nearest", .nearest), ("sqrt", .sqrt)]

def floatBinaries : List (String × FloatBinary) :=
  [("add", .add), ("sub", .sub), ("mul", .mul), ("div", .div), ("min", .min), ("max", .max),
    ("copysign", .copysign)]

def conversions : List (String × Numeric) := [
  ("i32.wrap_i64", .wrap),
  ("i32.trunc_f32_s", .truncate .w32 .w32 true), ("i32.trunc_f32_u", .truncate .w32 .w32 false),
  ("i32.trunc_f64_s", .truncate .w32 .w64 true), ("i32.trunc_f64_u", .truncate .w32 .w64 false),
  ("i64.extend_i32_s", .extend true), ("i64.extend_i32_u", .extend false),
  ("i64.trunc_f32_s", .truncate .w64 .w32 true), ("i64.trunc_f32_u", .truncate .w64 .w32 false),
  ("i64.trunc_f64_s", .truncate .w64 .w64 true), ("i64.trunc_f64_u", .truncate .w64 .w64 false),
  ("f32.convert_i32_s", .convert .w32 .w32 true), ("f32.convert_i32_u", .convert .w32 .w32 false),
  ("f32.convert_i64_s", .convert .w32 .w64 true), ("f32.convert_i64_u", .convert .w32 .w64 false),
  ("f32.demote_f64", .demote),
  ("f64.convert_i32_s", .convert .w64 .w32 true), ("f64.convert_i32_u", .convert .w64 .w32 false),
  ("f64.convert_i64_s", .convert .w64 .w64 true), ("f64.convert_i64_u", .convert .w64 .w64 false),
  ("f64.promote_f32", .promote),
  ("i32.reinterpret_f32", .reinterpretFloat .w32), ("i64.reinterpret_f64", .reinterpretFloat .w64),
  ("f32.reinterpret_i32", .reinterpretInt .w32), ("f64.reinterpret_i64", .reinterpretInt .w64),
  ("i32.extend8_s", .intUnary .w32 .extend8), ("i32.extend16_s", .intUnary .w32 .extend16),
  ("i64.extend8_s", .intUnary .w64 .extend8), ("i64.extend16_s", .intUnary .w64 .extend16),
  ("i64.extend32_s", .intUnary .w64 .extend32)]

/-- The operators with codes of one byte, from `0x45` on. -/
def table : List (String × Numeric) :=
  [("i32.eqz", .intTest .w32)] ++ intComparisons.map (fun (n, op) => ("i32." ++ n, intCompare .w32 op)) ++
  [("i64.eqz", .intTest .w64)] ++ intComparisons.map (fun (n, op) => ("i64." ++ n, intCompare .w64 op)) ++
  floatComparisons.map (fun (n, op) => ("f32." ++ n, floatCompare .w32 op)) ++
  floatComparisons.map (fun (n, op) => ("f64." ++ n, floatCompare .w64 op)) ++
  intUnaries.map (fun (n, op) => ("i32." ++ n, intUnary .w32 op)) ++
  intBinaries.map (fun (n, op) => ("i32." ++ n, intBinary .w32 op)) ++
  intUnaries.map (fun (n, op) => ("i64." ++ n, intUnary .w64 op)) ++
  intBinaries.map (fun (n, op) => ("i64." ++ n, intBinary .w64 op)) ++
  floatUnaries.map (fun (n, op) => ("f32." ++ n, floatUnary .w32 op)) ++
  floatBinaries.map (fun (n, op) => ("f32." ++ n, floatBinary .w32 op)) ++
  floatUnaries.map (fun (n, op) => ("f64." ++ n, floatUnary .w64 op)) ++
  floatBinaries.map (fun (n, op) => ("f64." ++ n, floatBinary .w64 op)) ++ conversions

def firstCode : Nat := 0x45

/-- The operators with codes `0xfc 0` to `0xfc 7`. -/
def saturating : List (String × Numeric) := [
  ("i32.trunc_sat_f32_s", .saturate .w32 .w32 true), ("i32.trunc_sat_f32_u", .saturate .w32 .w32 false),
  ("i32.trunc_sat_f64_s", .saturate .w32 .w64 true), ("i32.trunc_sat_f64_u", .saturate .w32 .w64 false),
  ("i64.trunc_sat_f32_s", .saturate .w64 .w32 true), ("i64.trunc_sat_f32_u", .saturate .w64 .w32 false),
  ("i64.trunc_sat_f64_s", .saturate .w64 .w64 true), ("i64.trunc_sat_f64_u", .saturate .w64 .w64 false)]

end Numeric

/-- The scalar types that memory instructions move. -/
inductive Scalar where
  | i32 | i64 | f32 | f64
deriving DecidableEq, Repr, Inhabited

def Scalar.type {ι : Type} : Scalar → ValType ι
  | i32 => .i32
  | i64 => .i64
  | f32 => .f32
  | f64 => .f64

/-- A load of `2 ^ log` bytes, extended by sign or by zeros. -/
structure Load where
  scalar : Scalar
  log : Nat
  signed : Bool
deriving DecidableEq, Repr, Inhabited

/-- A store of the lowest `2 ^ log` bytes. -/
structure Store where
  scalar : Scalar
  log : Nat
deriving DecidableEq, Repr, Inhabited

/-- The loads, from code `0x28` on. -/
def Load.table : List (String × Load) := [
  ("i32.load", ⟨.i32, 2, false⟩), ("i64.load", ⟨.i64, 3, false⟩), ("f32.load", ⟨.f32, 2, false⟩),
  ("f64.load", ⟨.f64, 3, false⟩), ("i32.load8_s", ⟨.i32, 0, true⟩), ("i32.load8_u", ⟨.i32, 0, false⟩),
  ("i32.load16_s", ⟨.i32, 1, true⟩), ("i32.load16_u", ⟨.i32, 1, false⟩), ("i64.load8_s", ⟨.i64, 0, true⟩),
  ("i64.load8_u", ⟨.i64, 0, false⟩), ("i64.load16_s", ⟨.i64, 1, true⟩), ("i64.load16_u", ⟨.i64, 1, false⟩),
  ("i64.load32_s", ⟨.i64, 2, true⟩), ("i64.load32_u", ⟨.i64, 2, false⟩)]

def Load.firstCode : Nat := 0x28

/-- The stores, from code `0x36` on. -/
def Store.table : List (String × Store) := [
  ("i32.store", ⟨.i32, 2⟩), ("i64.store", ⟨.i64, 3⟩), ("f32.store", ⟨.f32, 2⟩), ("f64.store", ⟨.f64, 3⟩),
  ("i32.store8", ⟨.i32, 0⟩), ("i32.store16", ⟨.i32, 1⟩), ("i64.store8", ⟨.i64, 0⟩),
  ("i64.store16", ⟨.i64, 1⟩), ("i64.store32", ⟨.i64, 2⟩)]

def Store.firstCode : Nat := 0x36

end StrategyHost.Wasm
