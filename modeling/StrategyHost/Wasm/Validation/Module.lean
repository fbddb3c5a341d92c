import StrategyHost.Wasm.Validation.Checker

/-! # Valid modules

`Module.validate` checks a module: its types, limits and indices, constant expressions, and the bodies of its
functions. -/

namespace StrategyHost.Wasm

namespace Module

/-- The size of a memory in pages of 64 KiB. -/
def maxPages : Nat := 65536

def maxTableEntries : Nat := 10000000

def maxMemories : Nat := 100

def maxTables : Nat := 100

def maxLocals : Nat := 50000

def maxNameBytes : Nat := 100000

def checkLimits (l : Limits) : Check Unit :=
  match l.max? with
  | some m => require (l.min ≤ m) (.outOfRange "size minimum")
  | none => .ok ()

def checkMemory (f : Features) (m : MemoryType) : Check Unit := do
  checkLimits m.limits
  require m.pageLog?.isNone (.notEnabled "custom page sizes")
  require (!m.limits.wide) (.notEnabled "memory64")
  require (m.limits.min ≤ maxPages && (m.limits.max?.getD 0) ≤ maxPages) (.outOfRange "memory size")
  if m.shared then
    require f.threads (.notEnabled "threads")
    require m.limits.max?.isSome (.outOfRange "shared memory size")

def checkTable (types : TypeSpace) (f : Features) (t : TableType Nat) : Check Unit := do
  types.checkRef f t.element
  checkLimits t.limits
  require (!t.limits.wide) (.notEnabled "memory64")
  require (t.limits.min ≤ maxTableEntries && (t.limits.max?.getD 0) < 2 ^ 32) (.outOfRange "table size")

def checkTag (types : TypeSpace) (f : Features) (type : Nat) : Check Unit := do
  require f.exceptions (.notEnabled "exceptions")
  let t ← types.func type
  require t.results.isEmpty .typeMismatch

def checkName (n : String) : Check Unit := require (n.utf8ByteSize ≤ maxNameBytes) (.outOfRange "string size")

def checkImport (types : TypeSpace) (f : Features) (i : Import) : Check Unit := do
  checkName i.module
  checkName i.name
  match i.type with
  | .func t => do
    let _ ← types.func t
  | .table t => checkTable types f t
  | .memory m => checkMemory f m
  | .global g => types.checkVal f g.value
  | .tag t => checkTag types f t

/-- Exports name existing items, each name once. -/
def checkExports (m : Module) : List String → List Export → Check Unit
  | _, [] => .ok ()
  | seen, e :: es => do
    checkName e.name
    require (e.index < m.count e.kind) (.unknown e.kind.space e.index)
    require (!seen.contains e.name) (.duplicateExport e.name)
    checkExports m (e.name :: seen) es

/-- The functions that an expression refers to. -/
def referred (b : Body) : List Nat := b.filterMap fun i => match i with
  | .refFunc f => some f
  | _ => none

/-- The functions that bodies may refer to. -/
def declaredFuncs (m : Module) : List Nat :=
  m.exports.filterMap (fun e => if e.kind == .func then some e.index else none) ++
  m.globals.flatMap (fun g => referred g.init) ++
  m.tables.flatMap (fun t => (t.init?.map referred).getD []) ++
  m.elems.flatMap (fun e => e.items.flatMap referred)

/-- The context of constant expressions, with the first globals. -/
def constantContext (m : Module) (types : TypeSpace) (f : Features) (globals : List (GlobalType Nat)) : Context where
  features := f
  types := types
  funcs := m.funcTypes.toArray
  tables := m.tableTypes.toArray
  memories := m.memoryTypes.toArray
  globals := globals.toArray
  importedGlobals := m.importedGlobals.length
  tags := m.tagTypes.toArray
  elems := (m.elems.map (·.type)).toArray
  dataCount := m.datas.length
  declared? := none
  locals := #[]
  results := []
  constant := true

/-- Globals may refer to the ones before them. -/
def checkGlobals (m : Module) (types : TypeSpace) (f : Features) (before : List (GlobalType Nat)) :
    List Global → Check Unit
  | [] => .ok ()
  | g :: gs => do
    types.checkVal f g.type.value
    (m.constantContext types f before).checkBody [g.type.value] 0 g.init
    checkGlobals m types f (before ++ [g.type]) gs

def checkSegment (c : Context) (mode : SegmentMode) (target : Nat → Check Unit) : Check Unit :=
  match mode with
  | .active n offset => do
    target n
    c.checkBody [.i32] 0 offset
  | _ => .ok ()

def checkElem (c : Context) (e : Elem) : Check Unit := do
  e.type?.forM (c.types.checkRef c.features)
  checkSegment c e.mode fun n =>
    match c.tables[n]? with
    | some t => require (c.types.refSub e.type t.element) .typeMismatch
    | none => .error (.unknown .table n)
  e.items.forM (c.checkBody [.ref e.type] 0 ·)

def checkTableInit (c : Context) (t : Table) : Check Unit := do
  checkTable c.types c.features t.type
  match t.init? with
  | none => require t.type.element.nullable .typeMismatch
  | some b =>
    require c.features.functionReferences (.notEnabled "function references")
    c.checkBody [.ref t.type.element] 0 b

/-- The context of function bodies, without the locals of a function. -/
def bodyContext (m : Module) (base : Context) : Context :=
  { base with declared? := some m.declaredFuncs, constant := false }

def checkFunc (base : Context) (f : Func) : Check Unit := do
  let t ← base.types.func f.type
  require (t.params.length + f.locals.length ≤ maxLocals) (.outOfRange "local count")
  f.locals.forM (base.types.checkVal base.features)
  { base with locals := (t.params ++ f.locals).toArray : Context }.checkBody t.results t.params.length f.body

def checkStart (m : Module) (types : TypeSpace) : Check Unit :=
  match m.start? with
  | none => .ok ()
  | some s =>
    match m.funcTypes[s]? with
    | none => .error (.unknown .func s)
    | some t => do
      let t ← types.func t
      require (t.params.isEmpty && t.results.isEmpty) .typeMismatch

/-- Checks the whole module. -/
def validate (f : Features) (m : Module) : Check Unit := do
  let types ← TypeSpace.ofGroups f m.types
  m.imports.forM (checkImport types f)
  require (m.tableTypes.length ≤ maxTables) (.outOfRange "tables count")
  require (m.memoryTypes.length ≤ maxMemories) (.outOfRange "memories count")
  m.funcTypes.forM fun t => do
    let _ ← types.func t
  m.tables.forM (checkTableInit (m.constantContext types f m.importedGlobals))
  m.memories.forM (checkMemory f)
  m.tags.forM (checkTag types f)
  checkGlobals m types f m.importedGlobals m.globals
  checkExports m [] m.exports
  checkStart m types
  let base := m.constantContext types f m.globalTypes
  m.elems.forM (checkElem base)
  m.datas.forM fun d => checkSegment base d.mode fun n =>
    require (n < base.memories.size) (.unknown .memory n)
  m.funcs.forM (checkFunc (m.bodyContext base))

end Module

end StrategyHost.Wasm
