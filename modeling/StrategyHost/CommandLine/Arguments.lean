import StrategyHost.Audit.Record
import StrategyHost.Config.Source
import StrategyHost.Verdict

/-! # Arguments

`Invocation.read` reads the arguments of the program: options of the program itself, the name of a command, and the
options of that command. -/

namespace StrategyHost.CommandLine

/-- Why arguments give nothing to run. Help may be asked for a command. -/
inductive Stop where
  | usage
  | help (command? : Option String)
  | version
deriving DecidableEq, Repr

/-- An option, by its long name, its letter, whether a value follows it, and what it is for. -/
structure OptionSpec where
  long : String
  short? : Option Char
  takesValue : Bool
  purpose : String
deriving Repr

def OptionSpec.value (long purpose : String) : OptionSpec := ⟨long, none, true, purpose⟩

def OptionSpec.flag (long purpose : String) : OptionSpec := ⟨long, none, false, purpose⟩

/-- What arguments have set so far. -/
structure Parsed where
  values : List (String × String)
  flags : List String
  positionals : List String
deriving Repr, Inhabited

namespace Parsed

def empty : Parsed := ⟨[], [], []⟩

/-- An option is given once. -/
def setValue (p : Parsed) (name value : String) : Except Stop Parsed :=
  if (p.values.lookup name).isSome then .error .usage else .ok { p with values := p.values ++ [(name, value)] }

def setFlag (p : Parsed) (name : String) : Except Stop Parsed :=
  if p.flags.contains name then .error .usage else .ok { p with flags := p.flags ++ [name] }

def value? (p : Parsed) (name : String) : Option String := p.values.lookup name

end Parsed

inductive Argument where
  | positional
  | separator
  | flag (name : String)
  | value (name value : String)
  | needsValue (name : String)
  | stop (s : Stop)
deriving Repr

namespace Argument

/-- An argument that begins with two dashes. -/
def ofLong (specs : List OptionSpec) (versioned : Bool) (text : String) : Argument :=
  let name := (text.takeWhile (· != '=')).toString
  let assigned := text.length != name.length
  let value := (text.drop (name.length + 1)).toString
  match specs.find? (·.long == name) with
  | some s =>
    if s.takesValue then if assigned then .value name value else .needsValue name
    else if assigned then .stop .usage
    else .flag name
  | none =>
    if assigned then .stop .usage
    else if name == "help" then .stop (.help none)
    else if name == "version" && versioned then .stop .version
    else .stop .usage

/-- An argument that begins with one dash: the first letter decides, as no letter stands for a flag. -/
def ofShort (specs : List OptionSpec) (versioned : Bool) : List Char → Argument
  | 'h' :: _ => .stop (.help none)
  | c :: rest =>
    match specs.find? (·.short? == some c) with
    | some s =>
      match rest with
      | [] => .needsValue s.long
      | '=' :: text => .value s.long (String.ofList text)
      | text => .value s.long (String.ofList text)
    | none => if c == 'V' && versioned then .stop .version else .stop .usage
  | [] => .positional

def classify (specs : List OptionSpec) (versioned : Bool) (text : String) : Argument :=
  match text.toList with
  | ['-', '-'] => .separator
  | '-' :: '-' :: rest => ofLong specs versioned (String.ofList rest)
  | '-' :: rest => ofShort specs versioned rest
  | _ => .positional

/-- A single dash is a value, anything else that begins with a dash is not. -/
def isValue (text : String) : Bool := text == "-" || !text.startsWith "-"

end Argument

/-- Reads options and other arguments. With `untilCommand` the first other argument ends the reading. -/
def readOptions (specs : List OptionSpec) (untilCommand : Bool) (p : Parsed) :
    List String → Except Stop (Parsed × List String)
  | [] => .ok (p, [])
  | text :: rest =>
    match Argument.classify specs untilCommand text, rest with
    | .positional, rest =>
      if untilCommand then .ok (p, text :: rest)
      else readOptions specs untilCommand { p with positionals := p.positionals ++ [text] } rest
    | .separator, rest =>
      if untilCommand then .error .usage else .ok ({ p with positionals := p.positionals ++ rest }, [])
    | .flag name, rest => do readOptions specs untilCommand (← p.setFlag name) rest
    | .value name value, rest => do readOptions specs untilCommand (← p.setValue name value) rest
    | .needsValue name, value :: rest =>
      if Argument.isValue value then do readOptions specs untilCommand (← p.setValue name value) rest
      else .error .usage
    | .needsValue _, [] => .error .usage
    | .stop s, _ => .error s

/-! ## Commands -/

structure RunOptions where
  tier : Tier
  identity : String
  version : Nat
  source? : Option String
  params? : Option String
  fromStore : Bool
  sharedCache : Bool
  marketData : String
  actor : String
deriving Repr

inductive Command where
  | analyze (path : String)
  | run (options : RunOptions)
  | audit (identity? : Option String) (eventType? : Option Audit.EventKind) (limit? : Option Nat)
  | verifyAudit (path? : Option String)
deriving Repr

/-- A command and the settings of the program. -/
structure Invocation where
  config? : Option String
  logDirectory : String
  command : Command
deriving Repr

def orUsage {α : Type} : Option α → Except Stop α
  | some a => .ok a
  | none => .error .usage

def checkPath (path : String) : Except Stop String := if path = "" then .error .usage else .ok path

def optionalPath : Option String → Except Stop (Option String)
  | none => .ok none
  | some path => (checkPath path).map some

def optionalNatural : Option String → Except Stop (Option Nat)
  | none => .ok none
  | some text => (orUsage (Config.readNatural? text)).map some

def tierNames : List (String × Tier) := [("predefined", .predefined), ("configured", .configured), ("dynamic", .dynamic)]

def eventNames : List (String × Audit.EventKind) :=
  [("load-attempt", .loadAttempt), ("permission-denied", .permissionDenied),
   ("resource-limit-exceeded", .resourceLimitExceeded), ("validation-rejected", .validationRejected),
   ("cache-degraded", .cacheDegraded), ("invalidated", .invalidated)]

namespace Command

def readAnalyze (args : List String) : Except Stop Command := do
  let (p, _) ← readOptions [] false .empty args
  match p.positionals with
  | [path] => return .analyze (← checkPath path)
  | _ => .error .usage

def runSpecs : List OptionSpec :=
  [.value "tier" "[possible values: predefined, configured, dynamic]", .value "identity" "",
   .value "version" "[default: 1]", .value "source" "WAT source for a dynamic strategy",
   .value "params" "JSON object of parameters for a configured strategy",
   .flag "from-store" "Resolve parameters or source from the database (DATABASE_URL)",
   .flag "shared-cache" "Share trusted instances through Redis (REDIS_URL)",
   .value "market-data" "JSON file holding a \x60MarketData\x60 document",
   .value "actor" "Caller recorded in the audit trail [default: cli]"]

def readRun (args : List String) : Except Stop Command := do
  let (p, _) ← readOptions runSpecs false .empty args
  if !p.positionals.isEmpty then .error .usage
  let tier ← orUsage ((p.value? "tier").bind fun n => tierNames.lookup n)
  let identity ← orUsage (p.value? "identity")
  let version := (← optionalNatural (p.value? "version")).getD 1
  let source? ← optionalPath (p.value? "source")
  let marketData ← checkPath (← orUsage (p.value? "market-data"))
  return .run {
    tier, identity, version, source?, marketData
    params? := p.value? "params"
    fromStore := p.flags.contains "from-store"
    sharedCache := p.flags.contains "shared-cache"
    actor := (p.value? "actor").getD "cli" }

def auditSpecs : List OptionSpec :=
  let types := ", ".intercalate (eventNames.map (·.1))
  [.value "identity" "", .value "event-type" s!"[possible values: {types}]", .value "limit" ""]

def readAudit (args : List String) : Except Stop Command := do
  let (p, _) ← readOptions auditSpecs false .empty args
  if !p.positionals.isEmpty then .error .usage
  let eventType? ← match p.value? "event-type" with
    | none => pure none
    | some name => some <$> orUsage (eventNames.lookup name)
  return .audit (p.value? "identity") eventType? (← optionalNatural (p.value? "limit"))

def readVerifyAudit (args : List String) : Except Stop Command := do
  let (p, _) ← readOptions [] false .empty args
  match p.positionals with
  | [] => return .verifyAudit none
  | [path] => return .verifyAudit (some (← checkPath path))
  | _ => .error .usage

def readers : List (String × (List String → Except Stop Command)) :=
  [("analyze", readAnalyze), ("run", readRun), ("audit", readAudit), ("verify-audit", readVerifyAudit)]

def read (name : String) (args : List String) : Except Stop Command :=
  match readers.lookup name with
  | some reader => (reader args).mapError fun s => if s = .help none then .help (some name) else s
  | none =>
    if name = "help" then
      match args with
      | [] => .error (.help none)
      | [topic] => .error (if topic = "help" || (readers.lookup topic).isSome then .help (some topic) else .usage)
      | _ => .error .usage
    else .error .usage

end Command

namespace Invocation

def specs : List OptionSpec :=
  [⟨"config", some 'c', true, "Gateway configuration file (TOML)"⟩,
   .value "log-level" "Log level (trace, debug, info, warn, error); RUST_LOG takes precedence [default: info]",
   .flag "json-logs" "Emit JSON logs on stdout",
   .value "log-dir" "Directory for the daily rolling log file [default: logs]",
   .flag "print-metrics" "Print Prometheus metrics after the command finishes"]

def read (args : List String) : Except Stop Invocation := do
  let (p, rest) ← readOptions specs true .empty args
  let config? ← optionalPath (p.value? "config")
  let logDirectory ← checkPath ((p.value? "log-dir").getD "logs")
  match rest with
  | [] => .error .usage
  | name :: args => return ⟨config?, logDirectory, ← Command.read name args⟩

end Invocation

end StrategyHost.CommandLine
