import StrategyHost.Wasm.Machine

/-! # Instances

The machine of a module before anything runs (`Module.machine`), and the copying of its active segments
(`Module.copySegments`): first into the tables, then into the memory. -/

namespace StrategyHost.Wasm

/-- The value of a constant expression over the globals before it. -/
def evalConstant (globals : Array Value) (b : Body) : Value :=
  let step (stack : List Value) (i : Instr Nat) : List Value :=
    match i, stack with
    | .const (.i32 n), _ => .i32 n :: stack
    | .const (.i64 n), _ => .i64 n :: stack
    | .const (.f32 n), _ => .f32 n :: stack
    | .const (.f64 n), _ => .f64 n :: stack
    | .const (.v128 low high), _ => .v128 low high :: stack
    | .refFunc f, _ => .ref (some f) :: stack
    | .refNull _, _ => .ref none :: stack
    | .globalGet x, _ => (globals[x]?).getD (.i32 0) :: stack
    | .numeric op, b :: a :: rest =>
      match op.binary a b with
      | .ok v => v :: rest
      | .error _ => rest
    | _, _ => stack
  ((b.foldl step []).head?).getD (.i32 0)

namespace Module

def signatureOf (m : Module) (type : Nat) : FuncType Nat := (m.signature? type).getD ⟨[], []⟩

def callees (m : Module) : List Callee :=
  let imported := m.imports.filterMap fun i => match i.type with
    | .func t => some (m.signatureOf t)
    | _ => none
  imported.zipIdx.map (fun (t, i) => .host i t.params.length t.results.length) ++
  m.funcs.map fun f =>
    let t := m.signatureOf f.type
    .code (.ofBody t.params.length t.results.length (f.locals.map Value.default) f.body)

def program (m : Module) : Program where
  callees := m.callees.toArray
  funcTypes := (m.funcTypes.map m.signatureOf).toArray
  types := ((List.range m.typeList.length).map m.signatureOf).toArray

/-- Memories of 32-bit addresses have at most so many pages. -/
def maxMemoryPages : Nat := 65536

def initialGlobals (m : Module) : Array Value :=
  m.globals.foldl (fun gs g => gs.push (evalConstant gs g.init)) #[]

/-- The machine of a module whose imports are functions, with empty segments yet to be copied. -/
def machine (m : Module) (program : Program) (fuelLimit : Nat) : Machine :=
  let globals := m.initialGlobals
  let memory := m.memories.head?
  { program
    memory := .ofPages ((memory.map (·.limits.min)).getD 0)
    maxPages := (memory.bind (·.limits.max?)).getD maxMemoryPages
    tables := (m.tables.map fun t =>
      Array.replicate t.type.limits.min ((t.init?.map (evalConstant globals)).getD (.ref none))).toArray
    tableLimits := (m.tables.map (·.type.limits.max?)).toArray
    globals
    elems := (m.elems.map fun e => match e.mode with
      | .passive => (e.items.map (evalConstant globals)).toArray
      | _ => #[]).toArray
    datas := (m.datas.map fun d => match d.mode with
      | .passive => d.bytes
      | _ => []).toArray
    code := ⟨#[], #[], 0, 0, []⟩
    pos := 0
    locals := #[]
    stack := []
    labels := []
    callers := []
    depth := 0
    fuelUsed := 0
    fuelLimit }

def offsetOf (globals : Array Value) (b : Body) : Nat :=
  match evalConstant globals b with
  | .i32 n => n.toNat
  | _ => 0

def copyElem (s : Machine) (e : Elem) : Except Trap Machine :=
  match e.mode with
  | .active t offset =>
    let start := offsetOf s.globals offset
    let table := (s.tables[t]?).getD #[]
    if start + e.items.length ≤ table.size then
      let vs := e.items.map (evalConstant s.globals)
      .ok { s with tables := s.tables.setIfInBounds t (Machine.setElements table start vs) }
    else .error .tableBounds
  | _ => .ok s

def copyData (s : Machine) (d : Data) : Except Trap Machine :=
  match d.mode with
  | .active _ offset =>
    match s.memory.write? (offsetOf s.globals offset) d.bytes with
    | some memory => .ok { s with memory }
    | none => .error .memoryBounds
  | _ => .ok s

def copySegments (m : Module) (s : Machine) : Except Trap Machine := do
  let s ← m.elems.foldlM copyElem s
  m.datas.foldlM copyData s

end Module

end StrategyHost.Wasm
