import StrategyHost.Wasm.Text.Document

/-! # Writing out shorthands

Exports, imports, contents and function types that are written in place become fields of their own:
`Field.expand` for the items, `expandTypes` for the types, which come after the ones that the text defines. -/

namespace StrategyHost.Wasm

/-- How many items of each kind the fields so far provide. -/
structure ItemCounts where
  funcs : Nat
  tables : Nat
  memories : Nat
  globals : Nat
  tags : Nat
deriving DecidableEq, Repr

namespace ItemCounts

def get (c : ItemCounts) : ExternalKind → Nat
  | .func => c.funcs
  | .table => c.tables
  | .memory => c.memories
  | .global => c.globals
  | .tag => c.tags

def add (c : ItemCounts) : ExternalKind → ItemCounts
  | .func => { c with funcs := c.funcs + 1 }
  | .table => { c with tables := c.tables + 1 }
  | .memory => { c with memories := c.memories + 1 }
  | .global => { c with globals := c.globals + 1 }
  | .tag => { c with tags := c.tags + 1 }

end ItemCounts

def ItemType.kind : ItemType → ExternalKind
  | func _ => .func
  | table _ => .table
  | memory _ => .memory
  | global _ => .global
  | tag _ => .tag

namespace Field

def kind? : Field → Option ExternalKind
  | imported _ _ _ _ item => some item.kind
  | func _ _ _ => some .func
  | table _ _ _ => some .table
  | memory _ _ _ => some .memory
  | global _ _ _ => some .global
  | tag _ _ _ => some .tag
  | _ => none

/-- The exports in front of item `n`. -/
def exportsOf (h : Head) (kind : ExternalKind) (n : Nat) : List Field :=
  h.exports.map fun name => .export h.place name kind (.number n h.place)

def zeroOffset (wide : Bool) : TextBody := [.plain (.const (if wide then .i64 0 else .i32 0))]

/-- The field without anything written in place, where `n` is the number of the item that it adds. -/
def expand (n : Nat) : Field → List Field
  | func h t (.imported m name) => imported h.place m name h.id? (.func t) :: exportsOf h .func n
  | func h t (.defined d) => func { h with exports := [] } t (.defined d) :: exportsOf h .func n
  | table h t (.imported m name) => imported h.place m name h.id? (.table t) :: exportsOf h .table n
  | table h t (.defined (.items items)) =>
    table { h with exports := [] } t (.defined .none) :: exportsOf h .table n ++
      [elem none (.active (.number n h.place) (zeroOffset t.limits.wide)) items]
  | table h t (.defined c) => table { h with exports := [] } t (.defined c) :: exportsOf h .table n
  | memory h t (.imported m name) => imported h.place m name h.id? (.memory t) :: exportsOf h .memory n
  | memory h t (.defined (some bytes)) =>
    memory { h with exports := [] } t (.defined none) :: exportsOf h .memory n ++
      [data none (.active (.number n h.place) (zeroOffset t.limits.wide)) bytes]
  | memory h t (.defined none) =>
    memory { h with exports := [] } t (.defined none) :: exportsOf h .memory n
  | global h t (.imported m name) => imported h.place m name h.id? (.global t) :: exportsOf h .global n
  | global h t (.defined init) =>
    global { h with exports := [] } t (.defined init) :: exportsOf h .global n
  | tag h t (.imported m name) => imported h.place m name h.id? (.tag t) :: exportsOf h .tag n
  | tag h t (.defined ()) => tag { h with exports := [] } t (.defined ()) :: exportsOf h .tag n
  | f => [f]

def expandAll (c : ItemCounts) : List Field → List Field
  | [] => []
  | f :: fs =>
    match f.kind? with
    | some k => f.expand (c.get k) ++ expandAll (c.add k) fs
    | none => f :: expandAll c fs

/-- An import after a function, table, memory or global is refused at its place. -/
def checkImportsFirst (defined : Bool) : List Field → Except TextFault Unit
  | [] => .ok ()
  | imported place _ _ _ _ :: fs =>
    if defined then .error ⟨place, "import after a definition"⟩ else checkImportsFirst defined fs
  | func _ _ _ :: fs | table _ _ _ :: fs | memory _ _ _ :: fs | global _ _ _ :: fs => checkImportsFirst true fs
  | _ :: fs => checkImportsFirst defined fs

end Field

/-! ## Types written in place -/

/-- The reference without its place. -/
def Index.bare : Index → Index
  | number n _ => .number n 0
  | id i => .id { i with place := 0 }

/-- The function type of a signature, without names and places. -/
def Signature.key (s : Signature) : FuncType Index :=
  let bare (t : ValType Index) : ValType Index :=
    match t with
    | .ref ⟨nullable, .concrete i⟩ => .ref ⟨nullable, .concrete i.bare⟩
    | t => t
  ⟨s.params.map fun (_, t) => bare t, s.results.map bare⟩

/-- The function types that are known, by their numbers, and those that the text does not define. -/
structure TypeTable where
  known : List (FuncType Index × Nat)
  next : Nat
  /-- In reverse. -/
  added : List Signature

abbrev Expanding := StateM TypeTable

namespace Expanding

/-- The number of a function type, which is added if it is new. -/
def numberOf (s : Signature) : Expanding Nat := do
  let t ← get
  match t.known.lookup s.key with
  | some n => return n
  | none =>
    let anonymous : Signature := ⟨s.params.map fun (_, t) => (none, t), s.results⟩
    set ({ known := t.known ++ [(s.key, t.next)], next := t.next + 1, added := anonymous :: t.added } : TypeTable)
    return t.next

def typeUse (u : TypeUse) : Expanding TypeUse := do
  match u.index? with
  | some _ => return u
  | none => return { u with index? := some (.number (← numberOf (u.inline?.getD ⟨[], []⟩)) 0) }

/-- Blocks without parameters and with at most one result need no type. -/
def blockType (u : TypeUse) : Expanding TypeUse := do
  match u.index?, u.inline? with
  | none, none => return u
  | none, some s => if s.params.isEmpty && s.results.length ≤ 1 then return u else typeUse u
  | some _, _ => return u

def instr : TextInstr → Expanding TextInstr
  | .block kind label type => return .block kind label (← blockType type)
  | .callIndirect tail table type => return .callIndirect tail table (← typeUse type)
  | i => return i

def body (b : TextBody) : Expanding TextBody := b.mapM instr

def mode : TextMode → Expanding TextMode
  | .active target offset => return .active target (← body offset)
  | m => return m

def field : Field → Expanding Field
  | .imported place m n id (.func t) => return .imported place m n id (.func (← typeUse t))
  | .imported place m n id (.tag t) => return .imported place m n id (.tag (← typeUse t))
  | .func h t (.defined (locals, b)) => do
    let t ← typeUse t
    return .func h t (.defined (locals, ← body b))
  | .table h t (.defined (.value b)) => return .table h t (.defined (.value (← body b)))
  | .global h t (.defined b) => return .global h t (.defined (← body b))
  | .tag h t o => return .tag h (← typeUse t) o
  | .elem id m items => do
    let m ← mode m
    match items with
    | .funcs xs => return .elem id m (.funcs xs)
    | .bodies t bs => return .elem id m (.bodies t (← bs.mapM body))
  | .data id m bytes => return .data id (← mode m) bytes
  | f => return f

end Expanding

/-- The types that the text defines, in order. -/
def Field.typeDefs : List Field → List TypeDef
  | [] => []
  | .type d :: fs => d :: typeDefs fs
  | .group ds :: fs => ds ++ typeDefs fs
  | _ :: fs => typeDefs fs

/-- The function types that stand outside groups, with their numbers from `n` on. -/
def Field.knownTypes (n : Nat) : List Field → List (FuncType Index × Nat)
  | [] => []
  | .type ⟨_, _, _, .func s⟩ :: fs => (s.key, n) :: knownTypes (n + 1) fs
  | .type _ :: fs => knownTypes (n + 1) fs
  | .group ds :: fs => knownTypes (n + ds.length) fs
  | _ :: fs => knownTypes n fs

/-- The fields with a number for every type use, and a definition of every type that was missing. -/
def Field.expandTypes (fs : List Field) : List Field :=
  let (fs, t) := (fs.mapM Expanding.field).run ⟨knownTypes 0 fs, (typeDefs fs).length, []⟩
  fs ++ t.added.reverse.map fun s => .type ⟨none, true, none, .func s⟩

end StrategyHost.Wasm
