import StrategyHost.Wasm.Component
import StrategyHost.Wasm.Text.Resolve

/-! # From source to valid modules

`compile` gives the valid module that a source encodes. `compileAll` also takes a component, if it comes as bytes, and gives the modules
inside it. -/

namespace StrategyHost.Wasm

inductive CompileFault where
  | text (f : TextFault)
  /-- The source is a component, at the place of its keyword. -/
  | component (place : Nat)
  | invalid (i : Invalid)
deriving DecidableEq, Repr

namespace Source

def fields : Source → List Field
  | text fs => fs
  | _ => []

/-- The bytes of a source, if they begin as those of a component do. -/
def component? : Source → Option (List UInt8)
  | binary bytes => if Decode.componentPreamble.isPrefixOf bytes then some bytes else none
  | _ => none

/-- The valid module that a source encodes. -/
def toModule (f : Features) (source : Source) : Except CompileFault Module := do
  let m ← match source with
    | text fs => (Field.toModule fs).mapError .text
    | binary bytes => (Module.decode bytes).mapError .invalid
    | component place => .error (.component place)
  (m.validate f).mapError .invalid
  return m

end Source

def compile (f : Features) (text : String) : Except CompileFault (List Field × Module) := do
  let source ← (Source.read text).mapError .text
  return (source.fields, ← source.toModule f)

/-- The fields of a text and the modules that it encodes, all of which is valid. A component is refused in text form, but not as
bytes. -/
def compileAll (read : ComponentReader) (f : Features) (text : String) : Except CompileFault (List Field × List Module) := do
  let source ← (Source.read text).mapError .text
  match source.component? with
  | some bytes => return (source.fields, ← (read bytes).mapError .invalid)
  | none => return (source.fields, [← source.toModule f])

end StrategyHost.Wasm
