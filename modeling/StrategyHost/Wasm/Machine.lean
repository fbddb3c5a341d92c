import StrategyHost.Wasm.Memory
import StrategyHost.Wasm.Module

/-! # The machine

A `Machine` runs the functions of a valid module one instruction at a time. What a guest asks of its host is a `Move` of
its own: a call of an imported function, or the growth of a memory or a table. The host answers with `Machine.resume`,
so nothing that the host keeps is part of the machine.

Fuel is used by every instruction that does more than steer, and by every entry of a function; it is checked when a
function is entered and at the start of every turn of a loop.

Left out, although a module that has them is read and validated and an engine may run them: the instructions on vectors,
and those that the machine has no values for (references to types, garbage-collected objects, exceptions). They end in
the trap `Trap.unsupported`. -/

namespace StrategyHost.Wasm

/-- Where the arms of a block end: the `otherwise` of a conditional if it has one, and the `close`. -/
structure Span where
  otherwise? : Option Nat
  close : Nat
deriving DecidableEq, Repr, Inhabited

/-- A function body with the spans of its blocks, by position. -/
structure Code where
  instrs : Array (Instr Nat)
  spans : Array Span
  params : Nat
  results : Nat
  locals : List Value
deriving Inhabited

namespace Code

/-- The spans of the blocks, from the last instruction back. `open'` holds the ends that still lack a beginning. -/
def spansFrom (pos : Nat) (done : List Span) (open' : List Span) : List (Instr Nat) → List Span
  | [] => done
  | i :: rest =>
    let next := pos - 1
    match i with
    | .close => spansFrom next (⟨none, pos⟩ :: done) (⟨none, pos⟩ :: open') rest
    | .otherwise =>
      match open' with
      | s :: outer => spansFrom next (s :: done) ({ s with otherwise? := some pos } :: outer) rest
      | [] => spansFrom next (⟨none, pos⟩ :: done) [] rest
    | .block _ _ =>
      match open' with
      | s :: outer => spansFrom next (s :: done) outer rest
      | [] => spansFrom next (⟨none, pos⟩ :: done) [] rest
    | _ => spansFrom next (⟨none, pos⟩ :: done) open' rest

def ofBody (params results : Nat) (locals : List Value) (b : Body) : Code where
  instrs := b.toArray
  spans := (spansFrom (b.length - 1) [] [] b.reverse).toArray
  params := params
  results := results
  locals := locals

end Code

inductive Callee where
  /-- An imported function, by its number, with the counts of its operands and results. -/
  | host (import' : Nat) (params results : Nat)
  | code (c : Code)
deriving Inhabited

/-- The part of a module that does not change while it runs. -/
structure Program where
  callees : Array Callee
  /-- The type of each function. -/
  funcTypes : Array (FuncType Nat)
  types : Array (FuncType Nat)
deriving Inhabited

/-- A block that has been entered: how many values a branch to it carries, where it continues, and the operands
beneath it. -/
structure Label where
  arity : Nat
  loop : Bool
  target : Nat
  below : List Value
deriving Inhabited

/-- A function that waits for another one. -/
structure Caller where
  code : Code
  pos : Nat
  locals : Array Value
  stack : List Value
  labels : List Label
deriving Inhabited

structure Machine where
  program : Program
  memory : Memory
  maxPages : Nat
  tables : Array (Array Value)
  tableLimits : Array (Option Nat)
  globals : Array Value
  elems : Array (Array Value)
  datas : Array (List UInt8)
  code : Code
  pos : Nat
  locals : Array Value
  stack : List Value
  labels : List Label
  callers : List Caller
  /-- The room that the calls in progress take. -/
  depth : Nat
  fuelUsed : Nat
  fuelLimit : Nat

inductive Request where
  | call (import' : Nat) (args : List Value)
  /-- A memory of `pages` pages in place of the present one. -/
  | growMemory (pages : Nat)
  /-- A table of `size` elements in place of the present one. The new elements are `init`. -/
  | growTable (table size : Nat) (init : Value)
deriving Inhabited

inductive Move where
  | next (m : Machine)
  | ask (r : Request) (m : Machine)
  | finished (results : List Value) (m : Machine)
  | trapped (t : Trap)

namespace Machine

/-- The room for calls, and what a call takes: a fixed part, and a part for each local. -/
def maxDepth : Nat := 524288

def callRoom : Nat := 32

def localRoom : Nat := 8

def roomOf (c : Code) : Nat := callRoom + localRoom * (c.params + c.locals.length)

/-- The fuel of an instruction. -/
def fuelOf : Instr Nat → Nat
  | .nop | .drop | .unreachable | .ret | .otherwise | .close => 0
  | .block .conditional _ => 1
  | .block _ _ => 0
  | _ => 1

def push (m : Machine) (v : Value) : Move := .next { m with stack := v :: m.stack, pos := m.pos + 1 }

/-- The machine after an instruction, with `stack` for its operands. -/
def continue' (m : Machine) (stack : List Value) : Move := .next { m with stack, pos := m.pos + 1 }

/-- Returns from the present function with its results on the stack. -/
def returnFrom (m : Machine) : Move :=
  let results := m.stack.take m.code.results
  match m.callers with
  | [] => .finished results.reverse { m with stack := [] }
  | c :: callers =>
    .next { m with
      depth := m.depth - roomOf m.code
      code := c.code
      pos := c.pos
      locals := c.locals
      stack := results ++ c.stack
      labels := c.labels
      callers }

/-- The start of a turn of a loop. -/
def turn (m : Machine) : Move := if m.fuelLimit ≤ m.fuelUsed then .trapped .outOfFuel else .next m

/-- Branches to the label at depth `l`, or returns if there is none. -/
def branch (m : Machine) (l : Nat) : Move :=
  match m.labels.drop l with
  | [] => m.returnFrom
  | label :: outer =>
    let carried := m.stack.take label.arity
    if label.loop then turn { m with stack := carried, labels := label :: outer, pos := label.target }
    else .next { m with stack := carried ++ label.below, labels := outer, pos := label.target }

/-- Enters a defined function with its operands, the last one first. -/
def enter (m : Machine) (c : Code) (callers : List Caller) (depth : Nat) (args : List Value) : Move :=
  let depth := depth + roomOf c
  if maxDepth < depth then .trapped .stackExhausted
  else if m.fuelLimit ≤ m.fuelUsed then .trapped .outOfFuel
  else
    .next { m with
      code := c
      pos := 0
      locals := (args.reverse ++ c.locals).toArray
      stack := []
      labels := []
      callers
      depth
      fuelUsed := m.fuelUsed + 1 }

def call (m : Machine) (f : Nat) : Move :=
  match m.program.callees[f]? with
  | some (.code c) =>
    let caller : Caller := ⟨m.code, m.pos + 1, m.locals, m.stack.drop c.params, m.labels⟩
    m.enter c (caller :: m.callers) m.depth (m.stack.take c.params)
  | some (.host i params _) =>
    .ask (.call i (m.stack.take params).reverse) { m with stack := m.stack.drop params, pos := m.pos + 1 }
  | none => .trapped .unsupported

def tailCall (m : Machine) (f : Nat) : Move :=
  match m.program.callees[f]? with
  | some (.code c) => m.enter c m.callers (m.depth - roomOf m.code) (m.stack.take c.params)
  | some (.host i params _) =>
    -- the results of the host are those of the present function
    .ask (.call i (m.stack.take params).reverse)
      { m with stack := [], labels := [], pos := m.code.instrs.size }
  | none => .trapped .unsupported

def lookup (m : Machine) (table type index : Nat) : Except Trap Nat :=
  match (m.tables[table]?).bind (·[index]?) with
  | none => .error .tableBounds
  | some (.ref none) => .error .uninitializedElement
  | some (.ref (some f)) =>
    match m.program.funcTypes[f]?, m.program.types[type]? with
    | some t, some u => if t == u then .ok f else .error .signatureMismatch
    | _, _ => .error .signatureMismatch
  | some _ => .error .unsupported

/-- How many operands a block takes, and how many results it leaves. -/
def blockArity (m : Machine) : BlockType Nat → Nat × Nat
  | .empty => (0, 0)
  | .value _ => (0, 1)
  | .func t =>
    match m.program.types[t]? with
    | some f => (f.params.length, f.results.length)
    | none => (0, 0)

/-- Enters a block at the present position; `stack` holds its operands and what is beneath. -/
def enterBlock (m : Machine) (loop : Bool) (type : BlockType Nat) (stack : List Value) (pos : Nat) : Move :=
  let (params, results) := m.blockArity type
  let close := match m.code.spans[m.pos]? with
    | some s => s.close
    | none => m.code.instrs.size
  let label : Label :=
    if loop then ⟨params, true, m.pos + 1, stack.drop params⟩
    else ⟨results, false, close + 1, stack.drop params⟩
  let m := { m with stack := stack.take params, labels := label :: m.labels, pos }
  if loop then m.turn else .next m

def conditional (m : Machine) (type : BlockType Nat) (condition : UInt32) (stack : List Value) : Move :=
  if condition != 0 then m.enterBlock false type stack (m.pos + 1)
  else
    match m.code.spans[m.pos]? with
    | some ⟨some e, _⟩ => m.enterBlock false type stack (e + 1)
    | some ⟨none, close⟩ => m.enterBlock false type stack close
    | none => .trapped .unsupported

/-- Leaves the innermost block, or the function. -/
def close (m : Machine) : Move :=
  match m.labels with
  | [] => m.returnFrom
  | label :: labels => .next { m with stack := m.stack ++ label.below, labels, pos := m.pos + 1 }

def loaded (op : Load) (n : Nat) : Value :=
  let bits := 8 * 2 ^ op.log
  let signed : Int := if op.signed && 2 ^ (bits - 1) ≤ n then (n : Int) - 2 ^ bits else n
  match op.scalar with
  | .i32 => .ofInt .w32 signed
  | .i64 => .ofInt .w64 signed
  | .f32 => .f32 n.toUInt32
  | .f64 => .f64 n.toUInt64

def bitsOf : Value → Nat
  | .i32 n => n.toNat
  | .i64 n => n.toNat
  | .f32 n => n.toNat
  | .f64 n => n.toNat
  | _ => 0

def load (m : Machine) (op : Load) (offset address : Nat) (stack : List Value) : Move :=
  match m.memory.readNumber? (address + offset) (2 ^ op.log) with
  | some n => m.continue' (loaded op n :: stack)
  | none => .trapped .memoryBounds

def write (m : Machine) (stack : List Value) (write : Memory → Option Memory) : Move :=
  let memory := m.memory
  let m := { m with memory := .empty }
  match write memory with
  | some memory => .next { m with memory, stack, pos := m.pos + 1 }
  | none => .trapped .memoryBounds

def store (m : Machine) (op : Store) (offset address : Nat) (v : Value) (stack : List Value) : Move :=
  let n := bitsOf v % 2 ^ (8 * 2 ^ op.log)
  m.write stack fun memory => memory.writeNumber? (address + offset) (2 ^ op.log) n

def copyMemory (m : Machine) (target source n : Nat) (stack : List Value) : Move :=
  m.write stack fun memory => do
    let bytes ← memory.read? source n
    memory.write? target bytes

def initMemory (m : Machine) (data target source n : Nat) (stack : List Value) : Move :=
  let bytes := (m.datas[data]?).getD []
  if source + n ≤ bytes.length then
    m.write stack fun memory => memory.write? target ((bytes.drop source).take n)
  else .trapped .memoryBounds

def setElements (table : Array Value) (target : Nat) (vs : List Value) : Array Value :=
  (vs.zipIdx target).foldl (fun t (v, i) => t.setIfInBounds i v) table

def writeTable (m : Machine) (table target : Nat) (vs : List Value) (stack : List Value) : Move :=
  match m.tables[table]? with
  | none => .trapped .unsupported
  | some t =>
    if target + vs.length ≤ t.size then
      .next { m with
        tables := m.tables.setIfInBounds table (setElements t target vs)
        stack
        pos := m.pos + 1 }
    else .trapped .tableBounds

def elements? (t : Array Value) (source n : Nat) : Option (List Value) :=
  if source + n ≤ t.size then some (t.extract source (source + n)).toList else none

def copyTable (m : Machine) (target source : Array Value) (table offset start n : Nat) (stack : List Value) : Move :=
  match elements? source start n with
  | some vs => if offset + n ≤ target.size then m.writeTable table offset vs stack else .trapped .tableBounds
  | none => .trapped .tableBounds

/-- The greatest size of a table. -/
def maxTableSize : Nat := 2 ^ 32 - 1

/-- Runs the present instruction. -/
def exec (m : Machine) (i : Instr Nat) : Move :=
  match i, m.stack with
  | .localGet x, stack => m.continue' ((m.locals[x]?).getD (.i32 0) :: stack)
  | .const c, stack =>
    m.continue' ((match c with
      | .i32 n => .i32 n
      | .i64 n => .i64 n
      | .f32 n => .f32 n
      | .f64 n => .f64 n
      | .v128 low high => .v128 low high) :: stack)
  | .numeric op, b :: rest =>
    if op.isBinary then
      match rest with
      | a :: rest =>
        match op.binary a b with
        | .ok v => m.continue' (v :: rest)
        | .error t => .trapped t
      | [] => .trapped .unsupported
    else
      match op.unary b with
      | .ok v => m.continue' (v :: rest)
      | .error t => .trapped t
  | .localSet x, v :: rest =>
    .next { m with locals := m.locals.setIfInBounds x v, stack := rest, pos := m.pos + 1 }
  | .localTee x, v :: rest =>
    .next { m with locals := m.locals.setIfInBounds x v, stack := v :: rest, pos := m.pos + 1 }
  | .br l, _ => m.branch l
  | .brIf l, .i32 c :: rest => if c != 0 then branch { m with stack := rest } l else m.continue' rest
  | .close, _ => m.close
  | .block .conditional type, .i32 c :: rest => m.conditional type c rest
  | .block .loop type, stack => m.enterBlock true type stack (m.pos + 1)
  | .block _ type, stack => m.enterBlock false type stack (m.pos + 1)
  | .otherwise, _ =>
    match m.code.spans[m.pos]? with
    | some s => .next { m with pos := s.close }
    | none => .trapped .unsupported
  | .unreachable, _ => .trapped .unreachable
  | .nop, stack => m.continue' stack
  | .brTable ls d, .i32 n :: rest => branch { m with stack := rest } ((ls[n.toNat]?).getD d)
  | .ret, _ => m.returnFrom
  | .call f, _ => m.call f
  | .callIndirect table type, .i32 n :: rest =>
    match m.lookup table type n.toNat with
    | .ok f => call { m with stack := rest } f
    | .error t => .trapped t
  | .tailCall f, _ => m.tailCall f
  | .tailCallIndirect table type, .i32 n :: rest =>
    match m.lookup table type n.toNat with
    | .ok f => tailCall { m with stack := rest } f
    | .error t => .trapped t
  | .drop, _ :: rest => m.continue' rest
  | .select _, .i32 c :: b :: a :: rest => m.continue' ((if c != 0 then a else b) :: rest)
  | .globalGet x, stack => m.continue' ((m.globals[x]?).getD (.i32 0) :: stack)
  | .globalSet x, v :: rest =>
    .next { m with globals := m.globals.setIfInBounds x v, stack := rest, pos := m.pos + 1 }
  | .load op a, .i32 n :: rest => m.load op a.offset n.toNat rest
  | .store op a, v :: .i32 n :: rest => m.store op a.offset n.toNat v rest
  | .memorySize _, stack => m.continue' (.i32 m.memory.pages.toUInt32 :: stack)
  | .memoryGrow _, .i32 n :: rest =>
    if n == 0 then m.continue' (.i32 m.memory.pages.toUInt32 :: rest)
    else .ask (.growMemory (m.memory.pages + n.toNat)) { m with stack := rest, pos := m.pos + 1 }
  | .memoryFill _, .i32 n :: .i32 b :: .i32 a :: rest =>
    m.write rest fun memory => memory.fill? a.toNat b.toUInt8 n.toNat
  | .memoryCopy _ _, .i32 n :: .i32 s :: .i32 t :: rest => m.copyMemory t.toNat s.toNat n.toNat rest
  | .memoryInit d _, .i32 n :: .i32 s :: .i32 t :: rest => m.initMemory d t.toNat s.toNat n.toNat rest
  | .dataDrop d, stack => .next { m with datas := m.datas.setIfInBounds d [], stack, pos := m.pos + 1 }
  | .tableGet t, .i32 n :: rest =>
    match (m.tables[t]?).bind (·[n.toNat]?) with
    | some v => m.continue' (v :: rest)
    | none => .trapped .tableBounds
  | .tableSet t, v :: .i32 n :: rest => m.writeTable t n.toNat [v] rest
  | .tableSize t, stack => m.continue' (.i32 ((m.tables[t]?).getD #[]).size.toUInt32 :: stack)
  | .tableGrow t, .i32 n :: v :: rest =>
    let size := ((m.tables[t]?).getD #[]).size
    if n == 0 then m.continue' (.i32 size.toUInt32 :: rest)
    else if maxTableSize < size + n.toNat then m.continue' (.i32 0xffffffff :: rest)
    else .ask (.growTable t (size + n.toNat) v) { m with stack := rest, pos := m.pos + 1 }
  | .tableFill t, .i32 n :: v :: .i32 a :: rest =>
    if ((m.tables[t]?).getD #[]).size < a.toNat + n.toNat then .trapped .tableBounds
    else m.writeTable t a.toNat (List.replicate n.toNat v) rest
  | .tableCopy t s, .i32 n :: .i32 b :: .i32 a :: rest =>
    m.copyTable ((m.tables[t]?).getD #[]) ((m.tables[s]?).getD #[]) t a.toNat b.toNat n.toNat rest
  | .tableInit e t, .i32 n :: .i32 b :: .i32 a :: rest =>
    m.copyTable ((m.tables[t]?).getD #[]) ((m.elems[e]?).getD #[]) t a.toNat b.toNat n.toNat rest
  | .elemDrop e, stack => .next { m with elems := m.elems.setIfInBounds e #[], stack, pos := m.pos + 1 }
  | .refNull _, stack => m.continue' (.ref none :: stack)
  | .refFunc f, stack => m.continue' (.ref (some f) :: stack)
  | .refIsNull, .ref r :: rest => m.continue' (.ofBool r.isNone :: rest)
  | _, _ => .trapped .unsupported

/-- One instruction. Behind the last one a function returns. -/
def step (m : Machine) : Move :=
  if h : m.pos < m.code.instrs.size then
    let i := m.code.instrs[m.pos]
    exec { m with fuelUsed := m.fuelUsed + fuelOf i } i
  else m.returnFrom

/-- The answer to a request for a memory of `pages` pages, which the module itself may still refuse. -/
def resumeMemory (m : Machine) (pages : Nat) : Machine :=
  let old := m.memory.pages
  if pages ≤ m.maxPages then
    { m with memory := m.memory.grow (pages - old), stack := .i32 old.toUInt32 :: m.stack }
  else { m with stack := .i32 0xffffffff :: m.stack }

/-- The answer to a request for a table of `size` elements. -/
def resumeTable (m : Machine) (table size : Nat) (init : Value) (granted : Bool) : Machine :=
  let t := (m.tables[table]?).getD #[]
  let max := ((m.tableLimits[table]?).bind id).getD maxTableSize
  if granted && size ≤ max then
    { m with
      tables := m.tables.setIfInBounds table (t ++ Array.replicate (size - t.size) init)
      stack := .i32 t.size.toUInt32 :: m.stack }
  else { m with stack := .i32 0xffffffff :: m.stack }

/-- The machine goes on with the results of what it asked for, the last one on top. -/
def resume (m : Machine) (results : List Value) : Machine := { m with stack := results.reverse ++ m.stack }

def start (m : Machine) (f : Nat) (args : List Value) : Move :=
  let results := match m.program.callees[f]? with
    | some (.code c) => c.results
    | some (.host _ _ results) => results
    | none => 0
  let outer : Code := ⟨#[], #[], 0, results, []⟩
  call { m with code := outer, pos := 0, locals := #[], stack := args.reverse, labels := [], callers := [], depth := 0 } f

end Machine

end StrategyHost.Wasm
