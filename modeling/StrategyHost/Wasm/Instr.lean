import StrategyHost.Wasm.Vector

/-! # Instructions

A function body is a flat sequence of instructions, in which `block`, `otherwise` and `close` nest. They are
generic in `ι`, the way in which an instruction refers to items of the module. -/

namespace StrategyHost.Wasm

inductive BlockType (ι : Type) where
  | empty
  | value (t : ValType ι)
  | func (type : ι)
deriving DecidableEq, Repr, Inhabited

/-- What a handler catches, and where it branches to. -/
structure Catch (ι : Type) where
  tag? : Option ι
  /-- Whether the exception itself is passed on. -/
  withRef : Bool
  label : ι
deriving DecidableEq, Repr, Inhabited

inductive BlockKind (ι : Type) where
  | plain | loop | conditional
  | handler (catches : List (Catch ι))
  /-- A handler of the withdrawn form, which no module may contain. -/
  | withdrawn
deriving DecidableEq, Repr, Inhabited

structure MemArg (ι : Type) where
  offset : Nat
  /-- The binary logarithm of the promised alignment. -/
  align : Nat
  memory : ι
deriving DecidableEq, Repr, Inhabited

inductive Const where
  | i32 (bits : UInt32)
  | i64 (bits : UInt64)
  | f32 (bits : UInt32)
  | f64 (bits : UInt64)
  | v128 (low high : UInt64)
deriving DecidableEq, Repr, Inhabited

def Const.type {ι : Type} : Const → ValType ι
  | i32 _ => .i32
  | i64 _ => .i64
  | f32 _ => .f32
  | f64 _ => .f64
  | v128 _ _ => .v128

/-- How a packed field is read. -/
inductive Extension where
  | none | signed | unsigned
deriving DecidableEq, Repr, Inhabited

/-- Instructions on structures, arrays and references of the managed heap. -/
inductive HeapInstr (ι : Type) where
  | structNew (type : ι) (default : Bool)
  | structGet (type field : ι) (ext : Extension)
  | structSet (type field : ι)
  | arrayNew (type : ι) (default : Bool)
  | arrayNewFixed (type : ι) (length : Nat)
  | arrayNewData (type data : ι)
  | arrayNewElem (type elem : ι)
  | arrayGet (type : ι) (ext : Extension)
  | arraySet (type : ι)
  | arrayLen
  | arrayFill (type : ι)
  | arrayCopy (target source : ι)
  | arrayInitData (type data : ι)
  | arrayInitElem (type elem : ι)
  | refTest (r : RefType ι)
  | refCast (r : RefType ι)
  | brOnCast (label : ι) (source target : RefType ι) (onFail : Bool)
  | toAny
  | toExternal
  | refI31
  | i31Get (signed : Bool)
deriving DecidableEq, Repr, Inhabited

inductive Instr (ι : Type) where
  | unreachable
  | nop
  | block (kind : BlockKind ι) (type : BlockType ι)
  | otherwise
  | close
  | throw (tag : ι)
  | throwRef
  | br (label : ι)
  | brIf (label : ι)
  | brTable (labels : List ι) (default : ι)
  | ret
  | call (func : ι)
  | callIndirect (table type : ι)
  | callRef (type : ι)
  | tailCall (func : ι)
  | tailCallIndirect (table type : ι)
  | tailCallRef (type : ι)
  | drop
  | select (types? : Option (List (ValType ι)))
  | localGet (local' : ι)
  | localSet (local' : ι)
  | localTee (local' : ι)
  | globalGet (global : ι)
  | globalSet (global : ι)
  | tableGet (table : ι)
  | tableSet (table : ι)
  | tableInit (elem table : ι)
  | tableCopy (target source : ι)
  | tableGrow (table : ι)
  | tableSize (table : ι)
  | tableFill (table : ι)
  | elemDrop (elem : ι)
  | load (op : Load) (arg : MemArg ι)
  | store (op : Store) (arg : MemArg ι)
  | memorySize (memory : ι)
  | memoryGrow (memory : ι)
  | memoryInit (data memory : ι)
  | memoryCopy (target source : ι)
  | memoryFill (memory : ι)
  | dataDrop (data : ι)
  | const (c : Const)
  | numeric (op : Numeric)
  | refNull (heap : HeapType ι)
  | refIsNull
  | refFunc (func : ι)
  | refEq
  | refAsNonNull
  | brOnNull (label : ι)
  | brOnNonNull (label : ι)
  | heap (op : HeapInstr ι)
  /-- A vector instruction, with its memory operand and its lanes if it has any. -/
  | vector (op : VectorOp) (arg? : Option (MemArg ι)) (lanes : List Nat)
  | atomic (op : AtomicOp) (arg : MemArg ι)
  | fence
  /-- Instructions of the withdrawn proposals, which no module may contain. -/
  | withdrawn
deriving DecidableEq, Repr, Inhabited

section Traversal
variable {ι κ ε : Type} (f : Space → ι → Except ε κ)

def BlockType.mapM : BlockType ι → Except ε (BlockType κ)
  | empty => .ok .empty
  | value t => (t.mapM (f .type)).map .value
  | func t => (f .type t).map .func

def MemArg.mapM (a : MemArg ι) : Except ε (MemArg κ) := return ⟨a.offset, a.align, ← f .memory a.memory⟩

def Catch.mapM (c : Catch ι) : Except ε (Catch κ) := do
  let tag? ← match c.tag? with
    | some t => (f .tag t).map some
    | none => .ok none
  return ⟨tag?, c.withRef, ← f .label c.label⟩

def BlockKind.mapM : BlockKind ι → Except ε (BlockKind κ)
  | plain => .ok .plain
  | loop => .ok .loop
  | conditional => .ok .conditional
  | handler cs => (cs.mapM (Catch.mapM f)).map .handler
  | withdrawn => .ok .withdrawn

/-- Two references of the spaces `s` and `t`, in their order. -/
def both {α : Type} (make : κ → κ → α) (s t : Space) (a b : ι) : Except ε α :=
  return make (← f s a) (← f t b)

end Traversal

section Resolution
variable {ι ε : Type} (f : Space → ι → Except ε Nat)

/-- The instruction with each reference replaced by the number that `f` finds for it. -/
def HeapInstr.mapM : HeapInstr ι → Except ε (HeapInstr Nat)
  | structNew t d => (f .type t).map (.structNew · d)
  | structGet t x e => do
    let t ← f .type t
    return .structGet t (← f (.field t) x) e
  | structSet t x => do
    let t ← f .type t
    return .structSet t (← f (.field t) x)
  | arrayNew t d => (f .type t).map (.arrayNew · d)
  | arrayNewFixed t n => (f .type t).map (.arrayNewFixed · n)
  | arrayNewData t d => both f .arrayNewData .type .data t d
  | arrayNewElem t e => both f .arrayNewElem .type .elem t e
  | arrayGet t e => (f .type t).map (.arrayGet · e)
  | arraySet t => (f .type t).map .arraySet
  | arrayLen => .ok .arrayLen
  | arrayFill t => (f .type t).map .arrayFill
  | arrayCopy t s => both f .arrayCopy .type .type t s
  | arrayInitData t d => both f .arrayInitData .type .data t d
  | arrayInitElem t e => both f .arrayInitElem .type .elem t e
  | refTest r => (r.mapM (f .type)).map .refTest
  | refCast r => (r.mapM (f .type)).map .refCast
  | brOnCast l s t c => do
    let l ← f .label l
    return .brOnCast l (← s.mapM (f .type)) (← t.mapM (f .type)) c
  | toAny => .ok .toAny
  | toExternal => .ok .toExternal
  | refI31 => .ok .refI31
  | i31Get s => .ok (.i31Get s)

@[inherit_doc HeapInstr.mapM]
def Instr.mapM : Instr ι → Except ε (Instr Nat)
  | unreachable => .ok .unreachable
  | nop => .ok .nop
  | block k t => return .block (← k.mapM f) (← t.mapM f)
  | otherwise => .ok .otherwise
  | close => .ok .close
  | throw t => (f .tag t).map .throw
  | throwRef => .ok .throwRef
  | br l => (f .label l).map .br
  | brIf l => (f .label l).map .brIf
  | brTable ls d => return .brTable (← ls.mapM (f .label)) (← f .label d)
  | ret => .ok .ret
  | call g => (f .func g).map .call
  | callIndirect t u => both f .callIndirect .table .type t u
  | callRef t => (f .type t).map .callRef
  | tailCall g => (f .func g).map .tailCall
  | tailCallIndirect t u => both f .tailCallIndirect .table .type t u
  | tailCallRef t => (f .type t).map .tailCallRef
  | drop => .ok .drop
  | select none => .ok (.select none)
  | select (some ts) => return .select (some (← ts.mapM (·.mapM (f .type))))
  | localGet x => (f .local x).map .localGet
  | localSet x => (f .local x).map .localSet
  | localTee x => (f .local x).map .localTee
  | globalGet x => (f .global x).map .globalGet
  | globalSet x => (f .global x).map .globalSet
  | tableGet t => (f .table t).map .tableGet
  | tableSet t => (f .table t).map .tableSet
  | tableInit e t => both f .tableInit .elem .table e t
  | tableCopy t s => both f .tableCopy .table .table t s
  | tableGrow t => (f .table t).map .tableGrow
  | tableSize t => (f .table t).map .tableSize
  | tableFill t => (f .table t).map .tableFill
  | elemDrop e => (f .elem e).map .elemDrop
  | load op a => (a.mapM f).map (.load op)
  | store op a => (a.mapM f).map (.store op)
  | memorySize m => (f .memory m).map .memorySize
  | memoryGrow m => (f .memory m).map .memoryGrow
  | memoryInit d m => both f .memoryInit .data .memory d m
  | memoryCopy t s => both f .memoryCopy .memory .memory t s
  | memoryFill m => (f .memory m).map .memoryFill
  | dataDrop d => (f .data d).map .dataDrop
  | const c => .ok (.const c)
  | numeric op => .ok (.numeric op)
  | refNull h => (h.mapM (f .type)).map .refNull
  | refIsNull => .ok .refIsNull
  | refFunc g => (f .func g).map .refFunc
  | refEq => .ok .refEq
  | refAsNonNull => .ok .refAsNonNull
  | brOnNull l => (f .label l).map .brOnNull
  | brOnNonNull l => (f .label l).map .brOnNonNull
  | heap op => (op.mapM f).map .heap
  | vector op none lanes => .ok (.vector op none lanes)
  | vector op (some a) lanes => return .vector op (some (← a.mapM f)) lanes
  | atomic op a => (a.mapM f).map (.atomic op)
  | fence => .ok .fence
  | withdrawn => .ok .withdrawn

end Resolution

end StrategyHost.Wasm
