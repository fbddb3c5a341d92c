import StrategyHost.Json.Decoder

/-! # The policy of the analysis

A `Policy` lists what a foreign source may import: one host module with its functions, some of which need a
further capability, and the modules and functions that are denied with a reason of their own. -/

namespace StrategyHost
open Json (Decoder Fields)

def sortNames (names : List String) : List String := (sortFields (names.map (·, ()))).map (·.1)

structure Policy where
  hostModule : String
  hostFunctions : List String
  gatedFunctions : List String
  /-- Modules, or beginnings of modules ending in `*`, with the reason why they are refused. -/
  deniedModules : List (String × String)
  deniedFunctions : List String
  maxSourceBytes : Nat
  memoCapacity : Nat
deriving DecidableEq, Repr

namespace Policy

def standard : Policy where
  hostModule := "host"
  hostFunctions := sortNames ["log", "emit_signal", "now_millis", "http_get", "read_file"]
  gatedFunctions := sortNames ["http_get", "read_file"]
  deniedModules := sortFields [
    ("wasi_snapshot_preview1", "WASI system interface"),
    ("wasi_unstable", "WASI system interface"),
    ("wasi:*", "WASI component interface"),
    ("env", "ambient host environment"),
    ("process", "process control"),
    ("os", "process control"),
    ("subprocess", "process control"),
    ("socket", "raw sockets"),
    ("net", "raw sockets"),
    ("http", "network access"),
    ("fs", "filesystem access"),
    ("file", "filesystem access"),
    ("eval", "dynamic code evaluation"),
    ("runtime", "reflection into the host runtime"),
    ("reflect", "reflection into the host runtime")]
  deniedFunctions := sortNames ["eval", "exec", "compile", "load_module", "spawn", "system", "get_global",
    "set_global", "get_attr", "import_module"]
  maxSourceBytes := 256 * 1024
  memoCapacity := 1024

instance : Inhabited Policy := ⟨standard⟩

/-- Whether `pattern` ends in `*` and the module begins with what stands before it. -/
def matchesPattern (pattern module : String) : Bool :=
  match pattern.toList.reverse with
  | '*' :: rest => rest.reverse.isPrefixOf module.toList
  | _ => false

/-- The reason why a module is denied: its own entry, else the first pattern that it matches. -/
def moduleDenial? (p : Policy) (module : String) : Option String :=
  match p.deniedModules.find? (·.1 == module) with
  | some (_, reason) => some reason
  | none => (p.deniedModules.find? fun (pattern, _) => matchesPattern pattern module).map (·.2)

def isHostModule (p : Policy) (module : String) : Bool := module == p.hostModule

def isDeniedFunction (p : Policy) (name : String) : Bool := p.deniedFunctions.contains name

def isHostFunction (p : Policy) (name : String) : Bool := p.hostFunctions.contains name

def isGated (p : Policy) (name : String) : Bool := p.gatedFunctions.contains name

def namesToJson (names : List String) : Json := .arr (names.map .str)

def toJson (p : Policy) : Json :=
  .obj [("host_module", .str p.hostModule), ("host_functions", namesToJson p.hostFunctions),
    ("gated_functions", namesToJson p.gatedFunctions),
    ("denied_modules", .obj (p.deniedModules.map fun (m, r) => (m, .str r))),
    ("denied_functions", namesToJson p.deniedFunctions), ("max_source_bytes", .ofNat p.maxSourceBytes),
    ("memo_capacity", .ofNat p.memoCapacity)]

def names : Decoder (List String) := (Decoder.list .string).map sortNames

def fields : Fields Policy :=
  Policy.mk <$> .withDefault "host_module" standard.hostModule .string
    <*> .withDefault "host_functions" standard.hostFunctions names
    <*> .withDefault "gated_functions" standard.gatedFunctions names
    <*> .withDefault "denied_modules" standard.deniedModules (.stringMap .string)
    <*> .withDefault "denied_functions" standard.deniedFunctions names
    <*> .withDefault "max_source_bytes" standard.maxSourceBytes (.nat 64)
    <*> .withDefault "memo_capacity" standard.memoCapacity (.nat 64)

def decoder : Decoder Policy := .record fields

end Policy

end StrategyHost
