import StrategyHost.Wasm.Module

/-! # Valid types

Which types a module may define, when two of them are the same (`TypeSpace.canon`), and when one is a subtype of
another. Types of a group are compared by the form of the whole group, so that equal groups define equal types. -/

namespace StrategyHost.Wasm

/-- The optional proposals that may be switched off. -/
structure Features where
  threads : Bool
  exceptions : Bool
  functionReferences : Bool
  gc : Bool
deriving DecidableEq, Repr

namespace Features

/-- Everything that has a stable binary form. -/
def all : Features := ⟨true, true, true, true⟩

/-- What the sandbox runs. -/
def sandbox : Features := ⟨false, false, false, false⟩

end Features

/-- Why a module is refused. -/
inductive Invalid where
  | unknown (space : Space) (index : Nat)
  | typeMismatch
  | notEnabled (proposal : String)
  | outOfRange (what : String)
  | wrongKind (what : String)
  | duplicateExport (name : String)
  | notConstant
  | unbalanced
  | undeclared (func : Nat)
  | uninitialized (local' : Nat)
  | immutable
  | malformed
deriving DecidableEq, Repr

namespace Invalid

def spaceName : Space → String
  | .type => "type"
  | .func => "function"
  | .table => "table"
  | .memory => "memory"
  | .global => "global"
  | .tag => "tag"
  | .elem => "elem segment"
  | .data => "data segment"
  | .label => "label"
  | .local => "local"
  | .field _ => "field"

def message : Invalid → String
  | unknown space n => "unknown " ++ spaceName space ++ " " ++ toString n
  | typeMismatch => "type mismatch"
  | notEnabled p => p ++ " support is not enabled"
  | outOfRange what => what ++ " is out of bounds"
  | wrongKind what => "expected " ++ what
  | duplicateExport name => "duplicate export name " ++ name
  | notConstant => "constant expression required"
  | unbalanced => "control frames do not nest"
  | undeclared f => "undeclared function reference " ++ toString f
  | uninitialized n => "uninitialized local " ++ toString n
  | immutable => "the item is immutable"
  | malformed => "malformed binary"

end Invalid

abbrev Check := Except Invalid

def require (p : Bool) (reason : Invalid) : Check Unit := if p then .ok () else .error reason

/-- A type within the form of a group: an earlier type, or a member of the group. -/
inductive GroupRef where
  | outer (canon : Nat)
  | member (position : Nat)
deriving DecidableEq, Repr

/-- The types defined so far. Each has the number of the first type that it equals. -/
structure TypeSpace where
  types : Array (SubType Nat)
  canon : Array Nat
  /-- The form of every group and the number of its first type. -/
  forms : List (List (SubType GroupRef) × Nat)
deriving Repr, Inhabited

namespace TypeSpace

def empty : TypeSpace := ⟨#[], #[], []⟩

def canonOf (s : TypeSpace) (n : Nat) : Nat := (s.canon[n]?).getD n

def get (s : TypeSpace) (n : Nat) : Check (SubType Nat) :=
  match s.types[n]? with
  | some t => .ok t
  | none => .error (.unknown .type n)

def func (s : TypeSpace) (n : Nat) : Check (FuncType Nat) := do
  match (← s.get n).composite with
  | .func f => return f
  | _ => throw (.wrongKind "a function type")

def structFields (s : TypeSpace) (n : Nat) : Check (List (FieldType Nat)) := do
  match (← s.get n).composite with
  | .struct fs => return fs
  | _ => throw (.wrongKind "a structure type")

def arrayElement (s : TypeSpace) (n : Nat) : Check (FieldType Nat) := do
  match (← s.get n).composite with
  | .array t => return t
  | _ => throw (.wrongKind "an array type")

/-! ## Subtypes -/

/-- The abstract types above an abstract type. -/
def above : AbstractHeap → List AbstractHeap
  | .func => [.func]
  | .noFunc => [.noFunc, .func]
  | .external => [.external]
  | .noExternal => [.noExternal, .external]
  | .any => [.any]
  | .eq => [.eq, .any]
  | .i31 => [.i31, .eq, .any]
  | .struct => [.struct, .eq, .any]
  | .array => [.array, .eq, .any]
  | .none => [.none, .i31, .struct, .array, .eq, .any]
  | .exn => [.exn]
  | .noExn => [.noExn, .exn]

/-- The abstract type of a defined type. -/
def kindOf (s : TypeSpace) (n : Nat) : AbstractHeap :=
  match (s.types[n]?).map SubType.composite with
  | some (.struct _) => .struct
  | some (.array _) => .array
  | _ => .func

/-- Whether the type `b` is reached from `a` in at most `fuel` steps to a supertype. -/
def reaches (s : TypeSpace) : Nat → Nat → Nat → Bool
  | 0, _, _ => false
  | fuel + 1, a, b =>
    s.canonOf a == s.canonOf b ||
    match (s.types[a]?).bind (·.super?) with
    | some c => s.reaches fuel c b
    | none => false

/-- Supertypes form chains of at most this length. -/
def maxDepth : Nat := 63

def heapSub (s : TypeSpace) : HeapType Nat → HeapType Nat → Bool
  | .abstract a, .abstract b => (above a).contains b
  | .concrete a, .abstract b => (above (s.kindOf a)).contains b
  | .abstract a, .concrete b =>
    match s.kindOf b with
    | .func => a == .noFunc
    | _ => a == .none
  | .concrete a, .concrete b => s.reaches (maxDepth + 2) a b

def refSub (s : TypeSpace) (a b : RefType Nat) : Bool := (!a.nullable || b.nullable) && s.heapSub a.heap b.heap

def valSub (s : TypeSpace) : ValType Nat → ValType Nat → Bool
  | .ref a, .ref b => s.refSub a b
  | a, b => a == b

def storageSub (s : TypeSpace) : StorageType Nat → StorageType Nat → Bool
  | .val a, .val b => s.valSub a b
  | a, b => a == b

def fieldSub (s : TypeSpace) (a b : FieldType Nat) : Bool :=
  a.mutable == b.mutable && s.storageSub a.storage b.storage && (!a.mutable || s.storageSub b.storage a.storage)

def all2 {α : Type} (p : α → α → Bool) : List α → List α → Bool
  | [], [] => true
  | a :: as, b :: bs => p a b && all2 p as bs
  | _, _ => false

def compositeSub (s : TypeSpace) : CompositeType Nat → CompositeType Nat → Bool
  | .func f, .func g => all2 s.valSub g.params f.params && all2 s.valSub f.results g.results
  | .struct fs, .struct gs => gs.length ≤ fs.length && all2 s.fieldSub (fs.take gs.length) gs
  | .array a, .array b => s.fieldSub a b
  | _, _ => false

/-! ## Well-formed types -/

def checkHeap (s : TypeSpace) (f : Features) (nullable : Bool) : HeapType Nat → Check Unit
  | .concrete n => do
    require (f.functionReferences || f.gc) (.notEnabled "function references")
    require (n < s.types.size) (.unknown .type n)
  | .abstract .func | .abstract .external =>
    require (nullable || f.functionReferences) (.notEnabled "function references")
  | .abstract .exn | .abstract .noExn => require f.exceptions (.notEnabled "exceptions")
  | .abstract _ => require f.gc (.notEnabled "gc")

def checkRef (s : TypeSpace) (f : Features) (r : RefType Nat) : Check Unit := s.checkHeap f r.nullable r.heap

def checkVal (s : TypeSpace) (f : Features) : ValType Nat → Check Unit
  | .ref r => s.checkRef f r
  | _ => .ok ()

def checkStorage (s : TypeSpace) (f : Features) : StorageType Nat → Check Unit
  | .val t => s.checkVal f t
  | _ => .ok ()

def maxParams : Nat := 1000

def maxFields : Nat := 10000

def checkComposite (s : TypeSpace) (f : Features) : CompositeType Nat → Check Unit
  | .func t => do
    require (t.params.length ≤ maxParams) (.outOfRange "function params size")
    require (t.results.length ≤ maxParams) (.outOfRange "function results size")
    t.params.forM (s.checkVal f)
    t.results.forM (s.checkVal f)
  | .struct fs => do
    require f.gc (.notEnabled "gc")
    require (fs.length ≤ maxFields) (.outOfRange "struct fields count")
    fs.forM fun t => s.checkStorage f t.storage
  | .array t => do
    require f.gc (.notEnabled "gc")
    s.checkStorage f t.storage

/-- The number of supertypes above a type. -/
def depth (s : TypeSpace) : Nat → Nat → Nat
  | 0, _ => 0
  | fuel + 1, n =>
    match (s.types[n]?).bind (·.super?) with
    | some c => s.depth fuel c + 1
    | none => 0

def checkSub (s : TypeSpace) (f : Features) (n : Nat) (t : SubType Nat) : Check Unit := do
  require (f.gc || (t.final && t.super?.isNone)) (.notEnabled "gc")
  s.checkComposite f t.composite
  match t.super? with
  | none => return ()
  | some p =>
    require (p < n) (.unknown .type p)
    let parent ← s.get p
    require (!parent.final && s.compositeSub t.composite parent.composite) .typeMismatch
    require (s.depth (maxDepth + 2) n ≤ maxDepth) (.outOfRange "sub type hierarchy")

/-- The form of a group whose first type has the number `base`. -/
def formOf (s : TypeSpace) (base : Nat) (members : List (SubType Nat)) : List (SubType GroupRef) :=
  let ref (n : Nat) : Except Empty GroupRef := .ok (if base ≤ n then .member (n - base) else .outer (s.canonOf n))
  members.map fun t => match t.mapM ref with | .ok t => t

/-- The space with one more group. -/
def addGroup (s : TypeSpace) (f : Features) (g : TypeGroup) : Check TypeSpace := do
  require (f.gc || !g.explicit) (.notEnabled "gc")
  let base := s.types.size
  let form := s.formOf base g.members
  let first := (s.forms.lookup form).getD base
  let new : TypeSpace := {
    types := s.types ++ g.members.toArray
    canon := s.canon ++ ((List.range g.members.length).map (first + ·)).toArray
    forms := if (s.forms.lookup form).isSome then s.forms else (form, base) :: s.forms }
  (g.members.zipIdx base).forM fun (t, n) => new.checkSub f n t
  return new

def ofGroups (f : Features) (gs : List TypeGroup) : Check TypeSpace := gs.foldlM (addGroup · f) .empty

end TypeSpace

end StrategyHost.Wasm
