import StrategyHost.Sandbox.Host
import StrategyHost.Wasm.Compile
import StrategyHost.Wasm.Instance

/-! # Guests

A `Guest` is a module that keeps the promises of a strategy (`Guest.compile`): it exports a memory, a function that
allocates and an entry point, and imports nothing but functions of the host. Every invocation runs on a machine of its
own (`Guest.invoke`), so nothing that a guest keeps outlives the call.

Two limits end a guest that does not end by itself: its fuel, and a number of instructions that stands for its
deadline. -/

namespace StrategyHost
open Wasm (Machine Move Value ValType FuncType Features)

structure Guest where
  module : Wasm.Module
  program : Wasm.Program
  /-- The function behind each import. -/
  imports : List HostFunction
  /-- The capabilities that its imports imply. -/
  requested : Capabilities
  alloc : Nat
  entry : Nat

inductive GuestRefusal where
  | compile (f : Wasm.CompileFault)
  | noMemory
  | noFunction (name : String)
  | signature (name : String) (actual expected : FuncType Nat)
  | unknownImport (module name : String)
  | importType (module name : String)
deriving DecidableEq, Repr

namespace GuestRefusal

def signatureText (t : FuncType Nat) : String :=
  let types (ts : List (ValType Nat)) : String := "[" ++ ", ".intercalate (ts.map ValType.name) ++ "]"
  types t.params ++ " -> " ++ types t.results

def message : GuestRefusal → String
  | compile _ => "the source does not compile"
  | noMemory => "module does not export \x60memory\x60"
  | noFunction name => "module does not export function \x60" ++ name ++ "\x60"
  | signature name actual expected =>
    "export \x60" ++ name ++ "\x60 has signature " ++ signatureText actual ++ ", expected " ++ signatureText expected
  | unknownImport module name => "unknown import: \x60" ++ module ++ "::" ++ name ++ "\x60 has not been defined"
  | importType module name => "incompatible import type for \x60" ++ module ++ "::" ++ name ++ "\x60"

end GuestRefusal

namespace Guest

def memoryName : String := "memory"

def allocName : String := "alloc"

def entryName : String := "generate_signals"

def allocType : FuncType Nat := ⟨[.i32], [.i32]⟩

def entryType : FuncType Nat := ⟨[.i32, .i32], [.i32]⟩

/-- The number of an exported function, which must be of the given type. -/
def findFunction (m : Wasm.Module) (name : String) (expected : FuncType Nat) : Except GuestRefusal Nat := do
  match m.export? name with
  | some ⟨_, .func, i⟩ =>
    let actual := m.signatureOf ((m.funcTypes[i]?).getD 0)
    if actual == expected then return i else throw (.signature name actual expected)
  | _ => throw (.noFunction name)

def link (m : Wasm.Module) (i : Wasm.Import) : Except GuestRefusal HostFunction := do
  let known := if i.module == HostFunction.moduleName then HostFunction.all.lookup i.name else none
  match known with
  | none => throw (.unknownImport i.module i.name)
  | some f =>
    match i.type with
    | .func t => if m.signatureOf t == f.signature then return f else throw (.importType i.module i.name)
    | _ => throw (.importType i.module i.name)

def capabilities (m : Wasm.Module) : Capabilities :=
  .ofList <| (m.imports.filter (·.module == HostFunction.moduleName)).filterMap fun i =>
    Capability.forHostFunction? i.name

def ofModule (m : Wasm.Module) : Except GuestRefusal Guest := do
  match m.export? memoryName with
  | some ⟨_, .memory, _⟩ => pure ()
  | _ => throw .noMemory
  let alloc ← findFunction m allocName allocType
  let entry ← findFunction m entryName entryType
  let imports ← m.imports.mapM (link m)
  return { module := m, program := m.program, imports, requested := capabilities m, alloc, entry }

def compile (text : String) : Except GuestRefusal Guest := do
  let (_, m) ← (Wasm.compile Features.sandbox text).mapError .compile
  ofModule m

/-! ## Running -/

/-- Answers what a machine asks for. -/
def answer (imports : List HostFunction) (r : Wasm.Request) (m : Machine) : Serve Machine :=
  match r with
  | .call i args =>
    match imports[i]? with
    | some f => do return m.resume (← f.serve m.memory args)
    | none => throw (.trap .unsupported)
  | .growMemory pages => do
    Serve.charge (·.grow (pages * Wasm.Memory.pageSize))
    return m.resumeMemory pages
  | .growTable table size init => return m.resumeTable table size init (MemoryAccount.allowsTable size)

/-- What a run comes to: the results of the function and the machine behind it. -/
structure Finish where
  results : List Value
  machine : Machine

/-- Runs on for at most `n` instructions. -/
def drive (imports : List HostFunction) : Nat → Visit → Move → Except GuestStop Finish × Visit
  | n, v, .finished results m => (.ok ⟨results, m⟩, { v with left := n })
  | n, v, .trapped t => (.error (.trap t), { v with left := n })
  | 0, v, _ => (.error (.trap .interrupted), { v with left := 0 })
  | n + 1, v, .next m => drive imports n v m.step
  | n + 1, v, .ask r m =>
    match (answer imports r m).run v with
    | (.ok m, v) => drive imports n v m.step
    | (.error e, v) => (.error e, { v with left := n })

def call (g : Guest) (m : Machine) (f : Nat) (args : List Value) : Serve Finish := fun v =>
  drive g.imports v.left v (m.start f args)

/-- Refuses a module whose memories and tables go beyond what a guest may have, and charges its memory. -/
def reserveRoom (m : Wasm.Module) : Serve Unit := do
  if MemoryAccount.maxMemories < m.memories.length then Serve.fault (.memoryCount m.memories.length)
  if MemoryAccount.maxTables < m.tables.length then Serve.fault (.tableCount m.tables.length)
  for t in m.tables do
    if !MemoryAccount.allowsTable t.type.limits.min then Serve.fault (.tableSize t.type.limits.min)
  for memory in m.memories do
    Serve.charge (·.grow (memory.limits.min * Wasm.Memory.pageSize))

def instantiate (g : Guest) (fuel : Nat) : Serve Machine := do
  reserveRoom g.module
  match g.module.copySegments (g.module.machine g.program fuel) with
  | .error t => throw (.trap t)
  | .ok m =>
    match g.module.start? with
    | none => return m
    | some f => return (← g.call m f []).machine

/-- A result of a function that gives one 32-bit number. -/
def number (done : Finish) : Serve UInt32 :=
  match done.results with
  | [.i32 n] => pure n
  | _ => throw (.trap .unsupported)

/-- Hands `payload` to the guest and calls its entry point, which gives a status. -/
def run (g : Guest) (fuel : Nat) (payload : List UInt8) : Serve Int := do
  let m ← g.instantiate fuel
  let length : Value := .i32 payload.length.toUInt32
  let allocated ← g.call m g.alloc [length]
  let pointer ← number allocated
  let signed := pointer.toInt32.toInt
  if signed < 0 then Serve.fault (.negativePointer signed)
  match allocated.machine.memory.write? pointer.toNat payload with
  | none => Serve.fault (.pointerOutOfBounds pointer.toNat)
  | some memory =>
    let done ← g.call { allocated.machine with memory } g.entry [.i32 pointer, length]
    return (← number done).toInt32.toInt

/-- A guest runs about so many instructions in a millisecond. -/
def instructionsPerMs : Nat := 1000000

/-- The failure of an invocation by the error that ended it. A guest that ran out of fuel has used up its CPU time, and one
that met its deadline its wall-clock time. -/
def failure (budgets : Budgets) (elapsed : Nat) : GuestStop → RunError
  | .denied d => .denied d
  | .breach b => .limitExceeded b
  | .trap .outOfFuel => .limitExceeded ⟨.cpuTime, budgets.cpuTimeMs, max elapsed budgets.cpuTimeMs⟩
  | .trap .interrupted => .limitExceeded ⟨.wallClock, budgets.wallClockMs, max elapsed budgets.wallClockMs⟩
  | .trap t => .runtime ("wasm trap: " ++ t.message)
  | .fault f => .runtime f.message

/-- The failure of an invocation. A refusal and a breach that the visit has noted go before the error that ended it. -/
def classify (budgets : Budgets) (elapsed : Nat) (v : Visit) (stop : GuestStop) : RunError :=
  match v.denied?, v.account.breach with
  | some d, _ => .denied d
  | none, some b => .limitExceeded b
  | none, none => failure budgets elapsed stop

/-- Payloads are shorter than this. -/
def maxPayload : Nat := 2 ^ 31

/-- Ends an invocation with what a visit came to, which is a status if all went well, and what it leaves behind. -/
def conclude (budgets : Budgets) (spentMs : Nat) (result : Except GuestStop Int) (visit : Visit) : Run SignalSet := do
  modify fun s => { s with events := s.events ++ visit.events, meter := s.meter.after spentMs }
  let elapsed := (← Run.look).elapsedMs
  match result with
  | .error stop => Run.fail (classify budgets elapsed visit stop)
  | .ok status =>
    if status ≠ 0 then Run.fail (.runtime (GuestFault.status entryName status).message)
    let logs := (← get).logs ++ visit.logs
    modify fun s => { s with logs := [] }
    return ⟨visit.signals, logs⟩

/-- Runs a guest once on market data. -/
def invoke (g : Guest) (limits : Limits) (data : MarketData) : Run SignalSet := do
  Run.checkpoint
  let s ← get
  let budgets := s.grant.budgets
  let payload := data.toJson.compact.toUTF8.toList
  if maxPayload ≤ payload.length then Run.fail (.runtime "market data too large")
  let pace := s.meter.pace
  let deadline := pace.instructions?.getD (limits.ticksFor budgets.wallClockMs * limits.tickMs * instructionsPerMs)
  let (result, visit) := (g.run (limits.fuelFor budgets.cpuTimeMs) payload).run (.start s.grant pace.clock deadline)
  conclude budgets ((deadline - visit.left) / instructionsPerMs) result visit

end Guest

end StrategyHost
