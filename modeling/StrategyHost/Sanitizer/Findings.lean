import StrategyHost.Policy
import StrategyHost.Sanitizer.Loops
import StrategyHost.Sanitizer.Places
import StrategyHost.Text.Quoted
import StrategyHost.Wasm.Compile

/-! # Findings

What a policy objects to in a source, without running it: in its imports, its exports, its start function and its
function bodies, in this order. A source that is too long or gives no valid module has one finding. -/

namespace StrategyHost
open Wasm Text

namespace Sanitizer

/-- Names that begin with two underscores are internal. -/
def isInternal (name : String) : Bool := ['_', '_'].isPrefixOf name.toList

def importFindings (p : Policy) (i : Import) (place : Location) : List Finding :=
  let internal :=
    if isInternal i.module || isInternal i.name then
      [⟨.dangerousAttribute, place,
        "import " ++ quoted i.module ++ "." ++ quoted i.name ++ " reaches into internal names", .high⟩]
    else []
  let denied :=
    if p.isDeniedFunction i.name then
      [⟨.dangerousCall, place, "call to deny-listed function " ++ quoted i.name, .critical⟩]
    else []
  let source :=
    if !p.isHostModule i.module then
      match p.moduleDenial? i.module with
      | some reason => [⟨.dangerousImport, place,
          "import of deny-listed module " ++ quoted i.module ++ " (" ++ reason ++ ")", .critical⟩]
      | none => [⟨.dangerousImport, place,
          "import of module " ++ quoted i.module ++ ", only " ++ quoted p.hostModule ++ " is allowed", .high⟩]
    else if i.type.kind != .func then
      [⟨.dangerousAttribute, place, "import of host " ++ i.type.kind.name ++ " " ++ quoted i.name, .high⟩]
    else if p.isDeniedFunction i.name then []
    else if !p.isHostFunction i.name then
      [⟨.dangerousCall, place, "host function " ++ quoted i.name ++ " is not part of the host API", .high⟩]
    else if p.isGated i.name then
      [⟨.capabilityRequest, place, "uses capability-gated host function " ++ quoted i.name, .medium⟩]
    else []
  internal ++ denied ++ source

def exportFindings (e : Export) (place : Location) : List Finding :=
  let internal : List Finding :=
    if isInternal e.name then
      [⟨.dangerousAttribute, place, "export " ++ quoted e.name ++ " uses a reserved internal name", .high⟩]
    else []
  let exposed : List Finding :=
    match e.kind with
    | .global => [⟨.dangerousAttribute, place, "export " ++ quoted e.name ++ " exposes a Global", .low⟩]
    | .table => [⟨.dangerousAttribute, place, "export " ++ quoted e.name ++ " exposes a Table", .low⟩]
    | _ => []
  internal ++ exposed

def startFindings (text : List UInt8) : Option Nat → List Finding
  | some f => [⟨.startFunction, .search text "(start" ("start " ++ toString f),
      "module runs a start function during instantiation", .low⟩]
  | none => []

def bodyFindings (b : Body) (place : Location) : List Finding :=
  let n := unboundedLoops b
  (if 0 < n then [⟨.unboundedLoop, place, toString n ++ " loop(s) without a reachable exit", .low⟩] else []) ++
  (if callsIndirectly b then [⟨.dynamicDispatch, place, "indirect call through a function table", .low⟩] else [])

/-- The findings of a valid module, before whose functions stand `first` others. -/
def moduleFindings (p : Policy) (text : List UInt8) (places : Places) (first : Nat) (m : Module) : List Finding :=
  m.imports.flatMap (fun i => importFindings p i (places.ofImport text i.module i.name)) ++
  m.exports.flatMap (fun e => exportFindings e (places.ofExport text e.name)) ++
  startFindings text m.start? ++
  (m.funcs.zipIdx first).flatMap fun (f, n) => bodyFindings f.body (places.ofFunc text n)

/-- The findings of valid modules one after the other, whose functions are numbered throughout. -/
def modulesFindings (p : Policy) (text : List UInt8) (places : Places) : Nat → List Module → List Finding
  | _, [] => []
  | first, m :: ms =>
    moduleFindings p text places first m ++ modulesFindings p text places (first + m.funcs.length) ms

/-- The finding of a source that gives no valid module. -/
def faultFinding (text : List UInt8) : CompileFault → Finding
  | .text f => ⟨.unreadable, .atOffset text f.place "", f.reason, .high⟩
  | .component place =>
    ⟨.policyLimit, .atOffset text place "component", "component model sources are not accepted", .high⟩
  | .invalid i => ⟨.unreadable, ⟨1, 1, "binary offset 0"⟩, "invalid module: " ++ i.message, .high⟩

def findings (read : ComponentReader) (p : Policy) (text : String) : List Finding :=
  if p.maxSourceBytes < text.utf8ByteSize then
    [⟨.policyLimit, ⟨1, 1, "source"⟩,
      s!"source is {text.utf8ByteSize} bytes, limit is {p.maxSourceBytes}", .high⟩]
  else
    let bytes := text.toUTF8.toList
    match compileAll read .all text with
    | .error fault => [faultFinding bytes fault]
    | .ok (fields, ms) => modulesFindings p bytes (Places.ofFields fields) 0 ms

end Sanitizer

end StrategyHost
