import StrategyHost.Verdict
import StrategyHost.Wasm.Text.Field

/-! # Places of findings

Where the items of a module stand in its text. What no field names is looked up by its quoted name. -/

namespace StrategyHost

/-- The place of the byte at `offset`: lines end at a line feed, and columns count bytes. -/
def Location.atOffset (text : List UInt8) (offset : Nat) (item : String) : Location :=
  let before := text.take offset
  let lines := before.count 10
  let column := (before.reverse.takeWhile (· != 10)).length
  ⟨lines + 1, column + 1, item⟩

/-- The offset of the first occurrence of `needle`. -/
def findBytes? (needle : List UInt8) : List UInt8 → Nat → Option Nat
  | [], n => if needle.isEmpty then some n else none
  | b :: bs, n => if needle.isPrefixOf (b :: bs) then some n else findBytes? needle bs (n + 1)

/-- The place of the first occurrence of `needle`, or the beginning. -/
def Location.search (text : List UInt8) (needle : String) (item : String) : Location :=
  atOffset text ((findBytes? needle.toUTF8.toList text 0).getD 0) item

namespace Sanitizer
open Wasm

/-- The offsets of the fields that findings point at. -/
structure Places where
  imports : List (String × String × Nat)
  exports : List (String × Nat)
  /-- The functions that are not imported, with their labels. -/
  funcs : List (String × Nat)
deriving Repr

namespace Places

def funcLabel (id? : Option Id) (n : Nat) : String :=
  match id? with
  | some i => "func $" ++ i.name
  | none => "func " ++ toString n

def addField (p : Places) (count : Nat) : Field → Places × Nat
  | .imported place m n _ _ => ({ p with imports := (m, n, place) :: p.imports }, count)
  | .func h _ (.imported m n) =>
    ({ p with
        imports := (m, n, h.place) :: p.imports
        exports := (h.exports.map (·, h.place)).reverse ++ p.exports }, count)
  | .func h _ (.defined _) =>
    ({ p with
        funcs := (funcLabel h.id? count, h.place) :: p.funcs
        exports := (h.exports.map (·, h.place)).reverse ++ p.exports }, count + 1)
  | .export place n _ _ => ({ p with exports := (n, place) :: p.exports }, count)
  | _ => (p, count)

def ofFields (fs : List Field) : Places :=
  let (p, _) := fs.foldl (fun (p, n) f => addField p n f) (⟨[], [], []⟩, 0)
  ⟨p.imports.reverse, p.exports.reverse, p.funcs.reverse⟩

def ofImport (p : Places) (text : List UInt8) (module name : String) : Location :=
  let item := "import \"" ++ module ++ "\" \"" ++ name ++ "\""
  match p.imports.find? fun (m, n, _) => m == module && n == name with
  | some (_, _, offset) => .atOffset text offset item
  | none => .search text ("\"" ++ module ++ "\"") item

def ofExport (p : Places) (text : List UInt8) (name : String) : Location :=
  let item := "export \"" ++ name ++ "\""
  match p.exports.find? (·.1 == name) with
  | some (_, offset) => .atOffset text offset item
  | none => .search text ("\"" ++ name ++ "\"") item

/-- The place of the function `n` among those that are not imported. -/
def ofFunc (p : Places) (text : List UInt8) (n : Nat) : Location :=
  match p.funcs[n]? with
  | some (label, offset) => .atOffset text offset label
  | none => ⟨1, 1, "func " ++ toString n⟩

end Places

end Sanitizer

end StrategyHost
