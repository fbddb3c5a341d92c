import StrategyHost.Wasm.Binary
import StrategyHost.Wasm.Validation.Module

/-! # Components in binary form

Bytes may encode a component, which holds modules and further components beside much else. Which components are valid is left to a
reader that is handed in (`ComponentReader`). `plainComponent` is a reader of components with modules and components in them only; it
refuses all others. -/

namespace StrategyHost.Wasm

/-- Reads a component: the modules inside it in their order, or why it is not valid. -/
abbrev ComponentReader := List UInt8 → Check (List Module)

namespace Decode

/-- The bytes that a component begins with. -/
def componentPreamble : List UInt8 := [0x00, 0x61, 0x73, 0x6d, 0x0d, 0x00, 0x01, 0x00]

/-- A component holds at most so many modules, and so many components. -/
def maxHeld : Nat := 1000

/-- The modules of a component after its preamble, where `modules` and `components` were held before. `fuel` bounds the
number of sections, each of which takes two bytes at least. -/
def componentSections : Nat → Nat → Nat → Decode (List Module)
  | 0, _, _ => refuse
  | fuel + 1, modules, components => do
    if ← isDone then return []
    let code ← byte
    let size ← u32
    match code with
    | 0 =>
      let bs ← takeBytes size
      match name bs with
      | .ok _ => componentSections fuel modules components
      | .error e => throw e
    | 1 =>
      ensure (modules < maxHeld)
      let m ← within size wholeModule
      return m :: (← componentSections fuel (modules + 1) components)
    | 4 =>
      ensure (components < maxHeld)
      let inner ← within size do
        ensure ((← takeBytes 8) == componentPreamble)
        componentSections fuel 0 0
      return inner ++ (← componentSections fuel modules (components + 1))
    | code =>
      ensure ([2, 3, 5, 6, 7, 8, 10, 11].contains code)
      within size do ensure ((← u32) == 0)
      componentSections fuel modules components

def wholeComponent : Decode (List Module) := do
  ensure ((← takeBytes 8) == componentPreamble)
  componentSections (← ahead) 0 0

end Decode

/-- Reads components in which every section holds a module, a component or text of its own, or nothing. -/
def plainComponent : ComponentReader := fun bytes => do
  let (ms, _) ← Decode.wholeComponent bytes
  ms.forM (Module.validate .all)
  return ms

end StrategyHost.Wasm
