/-! # WebAssembly types

Value, reference and composite types. They are generic in `ι`, the way in which a type refers to another one:
a number in a module, a number or a name in the text form. -/

namespace StrategyHost.Wasm

/-- The heap types that need no definition. -/
inductive AbstractHeap where
  | func | noFunc | external | noExternal | any | eq | i31 | struct | array | none | exn | noExn
deriving DecidableEq, Repr, Inhabited

inductive HeapType (ι : Type) where
  | abstract (h : AbstractHeap)
  | concrete (type : ι)
deriving DecidableEq, Repr, Inhabited

structure RefType (ι : Type) where
  nullable : Bool
  heap : HeapType ι
deriving DecidableEq, Repr, Inhabited

inductive ValType (ι : Type) where
  | i32 | i64 | f32 | f64 | v128
  | ref (r : RefType ι)
deriving DecidableEq, Repr, Inhabited

/-- What a field of a structure or an array holds. -/
inductive StorageType (ι : Type) where
  | i8 | i16
  | val (t : ValType ι)
deriving DecidableEq, Repr, Inhabited

structure FieldType (ι : Type) where
  mutable : Bool
  storage : StorageType ι
deriving DecidableEq, Repr, Inhabited

structure FuncType (ι : Type) where
  params : List (ValType ι)
  results : List (ValType ι)
deriving DecidableEq, Repr, Inhabited

inductive CompositeType (ι : Type) where
  | func (f : FuncType ι)
  | struct (fields : List (FieldType ι))
  | array (element : FieldType ι)
deriving DecidableEq, Repr, Inhabited

/-- A type definition: its supertype, whether it may have subtypes, and what it is. -/
structure SubType (ι : Type) where
  final : Bool
  super? : Option ι
  composite : CompositeType ι
deriving DecidableEq, Repr, Inhabited

structure Limits where
  min : Nat
  max? : Option Nat
  /-- Indices of 64 bits. -/
  wide : Bool
deriving DecidableEq, Repr, Inhabited

structure TableType (ι : Type) where
  limits : Limits
  element : RefType ι
deriving DecidableEq, Repr, Inhabited

structure MemoryType where
  limits : Limits
  shared : Bool
  /-- The binary logarithm of a page size other than 64 KiB. -/
  pageLog? : Option Nat
deriving DecidableEq, Repr, Inhabited

structure GlobalType (ι : Type) where
  value : ValType ι
  mutable : Bool
deriving DecidableEq, Repr, Inhabited

/-- The kind of item that an index counts. -/
inductive Space where
  | type | func | table | memory | global | tag | elem | data | label | local
  /-- The fields of a type. -/
  | field (type : Nat)
deriving DecidableEq, Repr

namespace RefType
variable {ι : Type}

/-- The nullable references to an abstract heap type. -/
def toAbstract (h : AbstractHeap) : RefType ι := ⟨true, .abstract h⟩

def func : RefType ι := toAbstract .func

def external : RefType ι := toAbstract .external

end RefType

section Traversal
variable {ι κ ε : Type} (f : ι → Except ε κ)

def HeapType.mapM : HeapType ι → Except ε (HeapType κ)
  | abstract h => .ok (.abstract h)
  | concrete t => (f t).map .concrete

def RefType.mapM (r : RefType ι) : Except ε (RefType κ) := return ⟨r.nullable, ← r.heap.mapM f⟩

def ValType.mapM : ValType ι → Except ε (ValType κ)
  | i32 => .ok .i32
  | i64 => .ok .i64
  | f32 => .ok .f32
  | f64 => .ok .f64
  | v128 => .ok .v128
  | ref r => (r.mapM f).map .ref

def StorageType.mapM : StorageType ι → Except ε (StorageType κ)
  | i8 => .ok .i8
  | i16 => .ok .i16
  | val t => (t.mapM f).map .val

def FieldType.mapM (t : FieldType ι) : Except ε (FieldType κ) := return ⟨t.mutable, ← t.storage.mapM f⟩

def FuncType.mapM (t : FuncType ι) : Except ε (FuncType κ) :=
  return ⟨← t.params.mapM (·.mapM f), ← t.results.mapM (·.mapM f)⟩

def CompositeType.mapM : CompositeType ι → Except ε (CompositeType κ)
  | func t => (t.mapM f).map .func
  | struct ts => (ts.mapM (FieldType.mapM f)).map .struct
  | array t => (t.mapM f).map .array

def SubType.mapM (t : SubType ι) : Except ε (SubType κ) := do
  let super? ← match t.super? with
    | some s => (f s).map some
    | none => .ok none
  return ⟨t.final, super?, ← t.composite.mapM f⟩

def TableType.mapM (t : TableType ι) : Except ε (TableType κ) := return ⟨t.limits, ← t.element.mapM f⟩

def GlobalType.mapM (t : GlobalType ι) : Except ε (GlobalType κ) := return ⟨← t.value.mapM f, t.mutable⟩

end Traversal

namespace ValType
variable {ι : Type}

def name : ValType Nat → String
  | i32 => "i32"
  | i64 => "i64"
  | f32 => "f32"
  | f64 => "f64"
  | v128 => "v128"
  | ref ⟨nullable, heap⟩ =>
    let heapName := match heap with
      | .abstract .func => "func"
      | .abstract .noFunc => "nofunc"
      | .abstract .external => "extern"
      | .abstract .noExternal => "noextern"
      | .abstract .any => "any"
      | .abstract .eq => "eq"
      | .abstract .i31 => "i31"
      | .abstract .struct => "struct"
      | .abstract .array => "array"
      | .abstract .none => "none"
      | .abstract .exn => "exn"
      | .abstract .noExn => "noexn"
      | .concrete t => toString t
    (if nullable then "(ref null " else "(ref ") ++ heapName ++ ")"

/-- Whether a variable of the type has a value before it is set. -/
def isDefaultable : ValType ι → Bool
  | ref r => r.nullable
  | _ => true

def isNumeric : ValType ι → Bool
  | i32 | i64 | f32 | f64 => true
  | _ => false

end ValType

end StrategyHost.Wasm
