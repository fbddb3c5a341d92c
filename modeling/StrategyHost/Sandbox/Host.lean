import StrategyHost.Market
import StrategyHost.Sandbox.Account
import StrategyHost.Session
import StrategyHost.Text.Lossy
import StrategyHost.Wasm.Memory
import StrategyHost.Wasm.Module

/-! # The host's side of the sandbox

Guests reach their host through five functions (`HostFunction`). `HostFunction.serve` answers a call: first the
capability is checked, then what the guest hands over is charged to its account, and only then it is read. What a
guest has done so far is its `Visit`; a call that is refused ends the visit with a `GuestStop`. -/

namespace StrategyHost

/-- Misuse of a host function by a guest, or of the guest's own promises. -/
inductive GuestFault where
  | tooManyLogs
  | tooManySignals
  | negativeLength (length : Int)
  | negativeBuffer (pointer length : Int)
  | longBuffer (length : Nat)
  | outOfBounds (pointer length : Nat)
  | invalidSignal (f : Json.Fault)
  | memoryCount (n : Nat)
  | tableCount (n : Nat)
  | tableSize (n : Nat)
  | negativePointer (pointer : Int)
  | pointerOutOfBounds (pointer : Nat)
  | status (entry : String) (code : Int)
deriving DecidableEq, Repr, Inhabited

namespace GuestFault

/-- Guests hand over at most so many bytes at once. -/
def maxBuffer : Nat := 64 * 1024

def maxLogs : Nat := 1024

def maxSignals : Nat := 1024

def message : GuestFault → String
  | tooManyLogs => s!"strategy exceeded {maxLogs} log lines"
  | tooManySignals => s!"strategy exceeded {maxSignals} signals"
  | negativeLength n => s!"negative guest length {n}"
  | negativeBuffer p n => s!"negative guest buffer ({p}, {n})"
  | longBuffer n => s!"guest buffer of {n} bytes exceeds {maxBuffer}"
  | outOfBounds p n => s!"guest buffer ({p}, {n}) out of bounds"
  | invalidSignal f => "invalid signal: " ++ f.message
  | memoryCount n => s!"resource limit exceeded: memory count too high at {n}"
  | tableCount n => s!"resource limit exceeded: table count too high at {n}"
  | tableSize n => s!"table minimum size of {n} elements exceeds table limits"
  | negativePointer p => s!"alloc returned negative pointer {p}"
  | pointerOutOfBounds p => s!"alloc returned out-of-bounds pointer {p}"
  | status entry n => s!"{entry} returned status {n}"

end GuestFault

/-- Why a guest stops short of its result. -/
inductive GuestStop where
  | denied (d : Denial)
  | breach (b : Breach)
  | trap (t : Wasm.Trap)
  | fault (f : GuestFault)
deriving DecidableEq, Repr, Inhabited

/-- What one guest may do and has done so far. -/
structure Visit where
  grant : Grant
  account : MemoryAccount
  logs : List String
  signals : List Signal
  /-- The refusal that the visit met with. -/
  denied? : Option Denial
  events : List Audit.Event
  /-- What the clock shows at the next looks. -/
  clock : List UInt64
  /-- The instructions that are left before the deadline. -/
  left : Nat
deriving Inhabited

def Visit.start (grant : Grant) (clock : List UInt64) (deadline : Nat) : Visit :=
  ⟨grant, .new grant.budgets.memoryBytes, [], [], none, [], clock, deadline⟩

abbrev Serve (α : Type) := ExceptT GuestStop (StateM Visit) α

namespace Serve

def fault {α : Type} (f : GuestFault) : Serve α := throw (.fault f)

/-- Stops unless the grant carries `c`; the denial is noted, and is an audit event. -/
def require (c : Capability) : Serve Unit := do
  let v ← get
  match v.grant.check c with
  | .ok () => pure ()
  | .error (denial, event) =>
    set { v with denied? := some denial, events := v.events ++ [event] }
    throw (.denied denial)

/-- An operation on the account, which may be refused. -/
def charge (op : MemoryAccount → Except Breach Unit × MemoryAccount) : Serve Unit := do
  let v ← get
  let (result, account) := op v.account
  set { v with account }
  match result with
  | .ok () => pure ()
  | .error b => throw (.breach b)

def readText (memory : Wasm.Memory) (pointer length : Int) : Serve String := do
  if pointer < 0 || length < 0 then fault (.negativeBuffer pointer length)
  let n := length.toNat
  if GuestFault.maxBuffer < n then fault (.longBuffer n)
  match memory.read? pointer.toNat n with
  | some bytes => pure (Text.decodeLossy bytes)
  | none => fault (.outOfBounds pointer.toNat n)

/-- Charges a buffer of the guest to its account. -/
def chargeBuffer (length : Int) : Serve Unit := do
  if length < 0 then fault (.negativeLength length)
  let n := length.toNat
  if GuestFault.maxBuffer < n then fault (.longBuffer n)
  charge (·.reserve n)

end Serve

inductive HostFunction where
  | log | emitSignal | nowMillis | httpGet | readFile
deriving DecidableEq, Repr, Inhabited

namespace HostFunction
open Wasm (Value FuncType)

/-- The module that guests import them from. -/
def moduleName : String := "host"

def all : List (String × HostFunction) :=
  [("log", log), ("emit_signal", emitSignal), ("now_millis", nowMillis), ("http_get", httpGet),
   ("read_file", readFile)]

def capability : HostFunction → Capability
  | log => .log
  | emitSignal => .emitSignal
  | nowMillis => .clock
  | httpGet => .network
  | readFile => .fileSystem

def signature : HostFunction → FuncType Nat
  | log | emitSignal => ⟨[.i32, .i32], []⟩
  | nowMillis => ⟨[], [.i64]⟩
  | httpGet | readFile => ⟨[.i32, .i32], [.i32]⟩

/-- What the clock shows where it stands still. -/
def clockMillis : UInt64 := 1735689600000

def serveLog (memory : Wasm.Memory) (pointer length : Int) : Serve (List Value) := do
  if GuestFault.maxLogs ≤ (← get).logs.length then Serve.fault .tooManyLogs
  Serve.chargeBuffer length
  let line ← Serve.readText memory pointer length
  modify fun v => { v with logs := v.logs ++ [line] }
  return []

def serveSignal (memory : Wasm.Memory) (pointer length : Int) : Serve (List Value) := do
  if GuestFault.maxSignals ≤ (← get).signals.length then Serve.fault .tooManySignals
  Serve.chargeBuffer length
  let text ← Serve.readText memory pointer length
  match Json.decodeText Signal.decoder text with
  | .ok signal =>
    modify fun v => { v with signals := v.signals ++ [signal] }
    return []
  | .error f => Serve.fault (.invalidSignal f)

def serveClock : Serve (List Value) := do
  match (← get).clock with
  | [] => return [.i64 clockMillis]
  | now :: later =>
    modify fun v => { v with clock := later }
    return [.i64 now]

/-- A place to read from. There is nothing behind it, so the guest is told that it is unavailable. -/
def serveUnavailable (memory : Wasm.Memory) (pointer length : Int) : Serve (List Value) := do
  let _ ← Serve.readText memory pointer length
  return [.i32 0xffffffff]

def serve (f : HostFunction) (memory : Wasm.Memory) (args : List Value) : Serve (List Value) := do
  Serve.require f.capability
  match f, args with
  | log, [.i32 p, .i32 n] => serveLog memory p.toInt32.toInt n.toInt32.toInt
  | emitSignal, [.i32 p, .i32 n] => serveSignal memory p.toInt32.toInt n.toInt32.toInt
  | nowMillis, _ => serveClock
  | httpGet, [.i32 p, .i32 n] | readFile, [.i32 p, .i32 n] =>
    serveUnavailable memory p.toInt32.toInt n.toInt32.toInt
  | _, _ => throw (.trap .signatureMismatch)

end HostFunction

end StrategyHost
