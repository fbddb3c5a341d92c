import StrategyHost.Wasm.Text.Expand

/-! # Resolving names

`Field.toModule` replaces every name by the number of its item. A name that is given twice is refused where it is
given again, and an unknown one where it is used. -/

namespace StrategyHost.Wasm

/-- The items of one kind: their names, and how many there are. -/
structure Names where
  entries : List (String × Nat)
  size : Nat
deriving Repr, Inhabited

namespace Names

def empty : Names := ⟨[], 0⟩

/-- Adds an item under number `size`. -/
def add (ns : Names) (id? : Option Id) : Except TextFault Names :=
  match id? with
  | none => .ok { ns with size := ns.size + 1 }
  | some i =>
    if (ns.entries.lookup i.name).isSome then .error ⟨i.place, "duplicate identifier"⟩
    else .ok ⟨(i.name, ns.size) :: ns.entries, ns.size + 1⟩

def addAll (ns : Names) (ids : List (Option Id)) : Except TextFault Names := ids.foldlM add ns

def find (ns : Names) : Index → Except TextFault Nat
  | .number n _ => .ok n
  | .id i =>
    match ns.entries.lookup i.name with
    | some n => .ok n
    | none => .error ⟨i.place, "unknown identifier"⟩

end Names

/-- All names of a module, and the function types by number. -/
structure Scope where
  types : Names
  funcs : Names
  tables : Names
  memories : Names
  globals : Names
  tags : Names
  elems : Names
  datas : Names
  /-- The names of the fields of each type, by its number. -/
  fields : List (Nat × Names)
  signatures : Array (Option Signature)
deriving Repr

namespace Scope

def empty : Scope :=
  ⟨.empty, .empty, .empty, .empty, .empty, .empty, .empty, .empty, [], #[]⟩

def addType (s : Scope) (d : TypeDef) : Except TextFault Scope := do
  let types ← s.types.add d.id?
  match d.composite with
  | .func sig => return { s with types, signatures := s.signatures.push (some sig) }
  | .struct fs =>
    let names ← Names.empty.addAll (fs.map (·.1))
    return { s with types, signatures := s.signatures.push none, fields := (s.types.size, names) :: s.fields }
  | .array _ => return { s with types, signatures := s.signatures.push none }

def addItem (s : Scope) (kind : ExternalKind) (id? : Option Id) : Except TextFault Scope := do
  match kind with
  | .func => return { s with funcs := ← s.funcs.add id? }
  | .table => return { s with tables := ← s.tables.add id? }
  | .memory => return { s with memories := ← s.memories.add id? }
  | .global => return { s with globals := ← s.globals.add id? }
  | .tag => return { s with tags := ← s.tags.add id? }

def addField (s : Scope) : Field → Except TextFault Scope
  | .type d => s.addType d
  | .group ds => ds.foldlM addType s
  | .imported _ _ _ id item => s.addItem item.kind id
  | .func h _ _ => s.addItem .func h.id?
  | .table h _ _ => s.addItem .table h.id?
  | .memory h _ _ => s.addItem .memory h.id?
  | .global h _ _ => s.addItem .global h.id?
  | .tag h _ _ => s.addItem .tag h.id?
  | .elem id _ _ => return { s with elems := ← s.elems.add id }
  | .data id _ _ => return { s with datas := ← s.datas.add id }
  | .export _ _ _ _ | .start _ | .custom => .ok s

/-- The names inside a function: of locals, and of the blocks that are open, innermost first. -/
structure Inner where
  locals : Names
  labels : List (Option String)

def Inner.empty : Inner := ⟨.empty, []⟩

/-- The depth of the innermost block of a name. -/
def Inner.label (inner : Inner) : Index → Except TextFault Nat
  | .number n _ => .ok n
  | .id i =>
    match inner.labels.findIdx? (· == some i.name) with
    | some n => .ok n
    | none => .error ⟨i.place, "unknown label"⟩

def find (s : Scope) (inner : Inner) (space : Space) (i : Index) : Except TextFault Nat :=
  match space with
  | .type => s.types.find i
  | .func => s.funcs.find i
  | .table => s.tables.find i
  | .memory => s.memories.find i
  | .global => s.globals.find i
  | .tag => s.tags.find i
  | .elem => s.elems.find i
  | .data => s.datas.find i
  | .label => inner.label i
  | .local => inner.locals.find i
  | .field t => ((s.fields.lookup t).getD .empty).find i

def valType (s : Scope) (t : ValType Index) : Except TextFault (ValType Nat) := t.mapM s.types.find

def signature (s : Scope) (sig : Signature) : Except TextFault (FuncType Nat) :=
  return ⟨← sig.params.mapM fun (_, t) => s.valType t, ← sig.results.mapM s.valType⟩

/-- The number of a type use. A type that is also written in place must agree with the one referred to. -/
def typeUse (s : Scope) (u : TypeUse) : Except TextFault Nat := do
  match u.index? with
  | none => return 0
  | some index =>
    let n ← s.types.find index
    match u.inline? with
    | none => return n
    | some inline =>
      let written ← s.signature inline
      match s.signatures[n]? with
      | some (some sig) =>
        let agrees := match s.signature sig with
          | .ok t => t == written
          | .error _ => false
        if agrees then return n else .error ⟨index.place, "inline function type doesn't match type reference"⟩
      | _ => return n

def blockType (s : Scope) (u : TypeUse) : Except TextFault (BlockType Nat) := do
  match u.index?, u.inline? with
  | some _, _ => return .func (← s.typeUse u)
  | none, none => return .empty
  | none, some sig =>
    match sig.results with
    | t :: _ => return .value (← s.valType t)
    | [] => return .empty

/-- The label of an `else` or an `end` must be that of the block. -/
def checkLabel (block? : Option (Option String)) (label? : Option Id) : Except TextFault Unit :=
  match block?, label? with
  | some block, some i => if block == some i.name then .ok () else .error ⟨i.place, "mismatching labels"⟩
  | _, _ => .ok ()

def body (s : Scope) (inner : Inner) : TextBody → Except TextFault Body
  | [] => .ok []
  | i :: rest => do
    match i with
    | .plain i => return (← i.mapM (s.find inner)) :: (← s.body inner rest)
    | .block kind label type =>
      let type ← s.blockType type
      let kind ← kind.mapM (s.find inner)
      return .block kind type :: (← s.body { inner with labels := label.map (·.name) :: inner.labels } rest)
    | .otherwise label =>
      checkLabel inner.labels.head? label
      return .otherwise :: (← s.body inner rest)
    | .close label =>
      checkLabel inner.labels.head? label
      return .close :: (← s.body { inner with labels := inner.labels.tail } rest)
    | .callIndirect tail table type =>
      let table ← s.tables.find table
      let type ← s.typeUse type
      return (if tail then .tailCallIndirect table type else .callIndirect table type) :: (← s.body inner rest)

/-- An expression outside functions, with its end. -/
def constant (s : Scope) (b : TextBody) : Except TextFault Body := return (← s.body .empty b) ++ [.close]

def function (s : Scope) (u : TypeUse) (locals : List (Option Id × ValType Index)) (b : TextBody) :
    Except TextFault Func := do
  let type ← s.typeUse u
  let types ← locals.mapM fun (_, t) => s.valType t
  let params := match u.inline? with
    | some sig => sig.params.map (·.1)
    | none =>
      match s.signatures[type]? with
      | some (some sig) => sig.params.map fun _ => none
      | _ => []
  let names ← Names.empty.addAll params
  let names ← names.addAll (locals.map (·.1))
  return ⟨type, types, (← s.body ⟨names, []⟩ b) ++ [.close]⟩

def mode (s : Scope) (targets : Names) : TextMode → Except TextFault SegmentMode
  | .passive => .ok .passive
  | .declared => .ok .declared
  | .active target offset => do
    let n ← targets.find target
    return .active n (← s.constant offset)

def typeDef (s : Scope) (d : TypeDef) : Except TextFault (SubType Nat) := do
  let super? ← match d.super? with
    | some i => some <$> s.types.find i
    | none => pure none
  let composite ← match d.composite with
    | .func sig => .func <$> s.signature sig
    | .struct fs => .struct <$> fs.mapM fun (_, t) => t.mapM s.types.find
    | .array t => .array <$> t.mapM s.types.find
  return ⟨d.final, super?, composite⟩

def importType (s : Scope) : ItemType → Except TextFault ImportType
  | .func u => return .func (← s.typeUse u)
  | .table t => return .table (← t.mapM s.types.find)
  | .memory t => return .memory t
  | .global t => return .global (← t.mapM s.types.find)
  | .tag u => return .tag (← s.typeUse u)

/-- The module with one more field. Its lists are in reverse. -/
def addTo (s : Scope) (m : Module) : Field → Except TextFault Module
  | .type d => return { m with types := ⟨false, [← s.typeDef d]⟩ :: m.types }
  | .group ds => return { m with types := ⟨true, ← ds.mapM s.typeDef⟩ :: m.types }
  | .imported _ module name _ item =>
    return { m with imports := ⟨module, name, ← s.importType item⟩ :: m.imports }
  | .func _ u (.defined (locals, b)) => return { m with funcs := (← s.function u locals b) :: m.funcs }
  | .table _ t (.defined c) => do
    let type ← t.mapM s.types.find
    let init? ← match c with
      | .value b => some <$> s.constant b
      | _ => pure none
    return { m with tables := ⟨type, init?⟩ :: m.tables }
  | .memory _ t (.defined _) => return { m with memories := t :: m.memories }
  | .global _ t (.defined b) => do
    let type ← t.mapM s.types.find
    return { m with globals := ⟨type, ← s.constant b⟩ :: m.globals }
  | .tag _ u _ => return { m with tags := (← s.typeUse u) :: m.tags }
  | .export _ name kind i => return { m with exports := ⟨name, kind, ← s.find .empty kind.space i⟩ :: m.exports }
  | .start i => return { m with start? := some (← s.funcs.find i) }
  | .elem _ mode items => do
    let mode ← s.mode s.tables mode
    match items with
    | .funcs xs =>
      let bodies ← xs.mapM fun x => return [.refFunc (← s.funcs.find x), .close]
      return { m with elems := ⟨mode, none, bodies⟩ :: m.elems }
    | .bodies t bs =>
      let bodies ← bs.mapM s.constant
      return { m with elems := ⟨mode, some (← t.mapM s.types.find), bodies⟩ :: m.elems }
  | .data _ mode bytes => return { m with datas := ⟨← s.mode s.memories mode, bytes⟩ :: m.datas }
  | _ => .ok m

end Scope

/-- Turns lists in reverse into lists in order. -/
def Module.reversed (m : Module) : Module where
  types := m.types.reverse
  imports := m.imports.reverse
  funcs := m.funcs.reverse
  tables := m.tables.reverse
  memories := m.memories.reverse
  tags := m.tags.reverse
  globals := m.globals.reverse
  exports := m.exports.reverse
  start? := m.start?
  elems := m.elems.reverse
  datas := m.datas.reverse

/-- The module that the fields describe. -/
def Field.toModule (fs : List Field) : Except TextFault Module := do
  let fs := expandAll ⟨0, 0, 0, 0, 0⟩ fs
  checkImportsFirst false fs
  let fs := expandTypes fs
  let scope ← fs.foldlM Scope.addField Scope.empty
  return (← fs.foldlM scope.addTo .empty).reversed

end StrategyHost.Wasm
