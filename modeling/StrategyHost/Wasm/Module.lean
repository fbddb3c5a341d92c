import StrategyHost.Wasm.Instr

/-! # Modules

A module in the form in which it is checked and run: items by number, imports first. -/

namespace StrategyHost.Wasm

inductive ExternalKind where
  | func | table | memory | global | tag
deriving DecidableEq, Repr, Inhabited

namespace ExternalKind

def name : ExternalKind → String
  | func => "function"
  | table => "table"
  | memory => "memory"
  | global => "global"
  | tag => "tag"

def space : ExternalKind → Space
  | func => .func
  | table => .table
  | memory => .memory
  | global => .global
  | tag => .tag

end ExternalKind

/-- What an import must provide. Functions and tags name their type. -/
inductive ImportType where
  | func (type : Nat)
  | table (t : TableType Nat)
  | memory (t : MemoryType)
  | global (t : GlobalType Nat)
  | tag (type : Nat)
deriving DecidableEq, Repr, Inhabited

def ImportType.kind : ImportType → ExternalKind
  | func _ => .func
  | table _ => .table
  | memory _ => .memory
  | global _ => .global
  | tag _ => .tag

structure Import where
  module : String
  name : String
  type : ImportType
deriving DecidableEq, Repr, Inhabited

structure Export where
  name : String
  kind : ExternalKind
  index : Nat
deriving DecidableEq, Repr, Inhabited

abbrev Body := List (Instr Nat)

structure Func where
  type : Nat
  locals : List (ValType Nat)
  /-- Ends with the `close` of the body itself. -/
  body : Body
deriving DecidableEq, Repr, Inhabited

structure Table where
  type : TableType Nat
  init? : Option Body
deriving DecidableEq, Repr, Inhabited

structure Global where
  type : GlobalType Nat
  init : Body
deriving DecidableEq, Repr, Inhabited

inductive SegmentMode where
  | passive
  | declared
  | active (target : Nat) (offset : Body)
deriving DecidableEq, Repr, Inhabited

structure Elem where
  mode : SegmentMode
  /-- The type of the items, unless they are given by the numbers of functions. -/
  type? : Option (RefType Nat)
  items : List Body
deriving DecidableEq, Repr, Inhabited

/-- The type of the items: functions that are given by number are never null. -/
def Elem.type (e : Elem) : RefType Nat := e.type?.getD ⟨false, .abstract .func⟩

structure Data where
  mode : SegmentMode
  bytes : List UInt8
deriving DecidableEq, Repr, Inhabited

/-- Types that may refer to each other. A type outside groups is a group of its own. -/
structure TypeGroup where
  explicit : Bool
  members : List (SubType Nat)
deriving DecidableEq, Repr, Inhabited

structure Module where
  types : List TypeGroup
  imports : List Import
  funcs : List Func
  tables : List Table
  memories : List MemoryType
  tags : List Nat
  globals : List Global
  exports : List Export
  start? : Option Nat
  elems : List Elem
  datas : List Data
deriving DecidableEq, Repr, Inhabited

namespace Module

def empty : Module := ⟨[], [], [], [], [], [], [], [], none, [], []⟩

def typeList (m : Module) : List (SubType Nat) := m.types.flatMap (·.members)

def signature? (m : Module) (type : Nat) : Option (FuncType Nat) :=
  match m.typeList[type]? with
  | some ⟨_, _, .func f⟩ => some f
  | _ => none

def funcTypes (m : Module) : List Nat :=
  m.imports.filterMap (fun i => match i.type with | .func t => some t | _ => none) ++ m.funcs.map (·.type)

def tableTypes (m : Module) : List (TableType Nat) :=
  m.imports.filterMap (fun i => match i.type with | .table t => some t | _ => none) ++ m.tables.map (·.type)

def memoryTypes (m : Module) : List MemoryType :=
  m.imports.filterMap (fun i => match i.type with | .memory t => some t | _ => none) ++ m.memories

def importedGlobals (m : Module) : List (GlobalType Nat) :=
  m.imports.filterMap fun i => match i.type with | .global t => some t | _ => none

def globalTypes (m : Module) : List (GlobalType Nat) := m.importedGlobals ++ m.globals.map (·.type)

def tagTypes (m : Module) : List Nat :=
  m.imports.filterMap (fun i => match i.type with | .tag t => some t | _ => none) ++ m.tags

def count (m : Module) : ExternalKind → Nat
  | .func => m.funcTypes.length
  | .table => m.tableTypes.length
  | .memory => m.memoryTypes.length
  | .global => m.globalTypes.length
  | .tag => m.tagTypes.length

def export? (m : Module) (name : String) : Option Export := m.exports.find? (·.name == name)

end Module

end StrategyHost.Wasm
