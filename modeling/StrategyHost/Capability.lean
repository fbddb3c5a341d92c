import StrategyHost.Json.Decoder

/-! # Capabilities

The privileged operations of the host, and sets of them. A set lists its members in the order of
`Capability.order`. -/

namespace StrategyHost
open Json (Decoder)

inductive Capability where
  | log | emitSignal | clock | network | fileSystem
deriving DecidableEq, Repr, Inhabited

namespace Capability

def all : List (String × Capability) :=
  [("Log", log), ("EmitSignal", emitSignal), ("Clock", clock), ("Network", network),
   ("FileSystem", fileSystem)]

def order : List Capability := [log, emitSignal, clock, network, fileSystem]

def name : Capability → String
  | log => "Log"
  | emitSignal => "EmitSignal"
  | clock => "Clock"
  | network => "Network"
  | fileSystem => "FileSystem"

/-- The capability that guards a function of the host. -/
def forHostFunction? (function : String) : Option Capability :=
  if function = "log" then some log
  else if function = "emit_signal" then some emitSignal
  else if function = "now_millis" then some clock
  else if function = "http_get" then some network
  else if function = "read_file" then some fileSystem
  else none

end Capability

abbrev Capabilities := List Capability

namespace Capabilities

/-- The members among `cs`, in order and once each. -/
def ofList (cs : List Capability) : Capabilities := Capability.order.filter cs.contains

def inter (a b : Capabilities) : Capabilities := a.filter b.contains

def toJson (cs : Capabilities) : Json := .arr (cs.map fun c => .str c.name)

def decoder : Decoder Capabilities := (Decoder.list (.enum Capability.all)).map ofList

end Capabilities

end StrategyHost
