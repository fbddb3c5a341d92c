import StrategyHost.Wasm.Module

/-! # Fields of the text form

What a module in text form consists of, with the byte offsets of names and of the keywords that begin a field.
Items refer to each other by number or by name, and types may be written where they are used. -/

namespace StrategyHost.Wasm

structure Id where
  name : String
  place : Nat
deriving DecidableEq, Repr, Inhabited

inductive Index where
  | number (n : Nat) (place : Nat)
  | id (i : Id)
deriving DecidableEq, Repr, Inhabited

def Index.place : Index → Nat
  | number _ place => place
  | id i => i.place

/-- A function type written in place, whose parameters may have names. -/
structure Signature where
  params : List (Option Id × ValType Index)
  results : List (ValType Index)
deriving DecidableEq, Repr, Inhabited

/-- A function type by reference, written in place, or both. -/
structure TypeUse where
  index? : Option Index
  inline? : Option Signature
deriving DecidableEq, Repr, Inhabited

/-- An instruction as it is written. -/
inductive TextInstr where
  | plain (i : Instr Index)
  | block (kind : BlockKind Index) (label? : Option Id) (type : TypeUse)
  | otherwise (label? : Option Id)
  | close (label? : Option Id)
  | callIndirect (tail : Bool) (table : Index) (type : TypeUse)
deriving Repr, Inhabited

abbrev TextBody := List TextInstr

/-- A type definition. Functions may name parameters, and structures fields. -/
inductive TextComposite where
  | func (s : Signature)
  | struct (fields : List (Option Id × FieldType Index))
  | array (element : FieldType Index)
deriving Repr, Inhabited

structure TypeDef where
  id? : Option Id
  final : Bool
  super? : Option Index
  composite : TextComposite
deriving Repr, Inhabited

/-- What an import must provide. -/
inductive ItemType where
  | func (type : TypeUse)
  | table (t : TableType Index)
  | memory (t : MemoryType)
  | global (t : GlobalType Index)
  | tag (type : TypeUse)
deriving Repr, Inhabited

/-- The items of a segment of references. -/
inductive ElemItems where
  | funcs (items : List Index)
  | bodies (type : RefType Index) (items : List TextBody)
deriving Repr, Inhabited

inductive TextMode where
  | passive
  | declared
  | active (target : Index) (offset : TextBody)
deriving Repr, Inhabited

/-- What stands for a definition: an import written in place, or the definition proper. -/
inductive Origin (α : Type) where
  | imported (module name : String)
  | defined (a : α)
deriving Repr

/-- The contents of a table. -/
inductive TableContent where
  | none
  | value (init : TextBody)
  | items (items : ElemItems)
deriving Repr, Inhabited

/-- What the fields of functions, tables, memories, globals and tags have in common. -/
structure Head where
  place : Nat
  id? : Option Id
  exports : List String
deriving Repr, Inhabited

inductive Field where
  | type (d : TypeDef)
  | group (ds : List TypeDef)
  | imported (place : Nat) (module name : String) (id? : Option Id) (item : ItemType)
  | func (head : Head) (type : TypeUse) (origin : Origin (List (Option Id × ValType Index) × TextBody))
  | table (head : Head) (type : TableType Index) (origin : Origin TableContent)
  | memory (head : Head) (type : MemoryType) (origin : Origin (Option (List UInt8)))
  | global (head : Head) (type : GlobalType Index) (origin : Origin TextBody)
  | tag (head : Head) (type : TypeUse) (origin : Origin Unit)
  | export (place : Nat) (name : String) (kind : ExternalKind) (index : Index)
  | start (func : Index)
  | elem (id? : Option Id) (mode : TextMode) (items : ElemItems)
  | data (id? : Option Id) (mode : TextMode) (bytes : List UInt8)
  | custom
deriving Repr

/-- A source in text form. -/
inductive Source where
  | text (fields : List Field)
  | binary (bytes : List UInt8)
  /-- A component, at the place of its keyword. -/
  | component (place : Nat)
deriving Repr

end StrategyHost.Wasm
