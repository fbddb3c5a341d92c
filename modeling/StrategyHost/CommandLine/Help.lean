import StrategyHost.CommandLine.Arguments

/-! # Help

The texts that the program prints about itself. -/

namespace StrategyHost.CommandLine

def programName : String := "strategy-gateway"

def versionText : String := "strategy-gateway-cli 0.1.0\n"

/-- The word for the value of an option: its name in capitals. -/
def placeholder (name : String) : String := (name.replace "-" "_").toUpper

namespace OptionSpec

def spelling (s : OptionSpec) : String :=
  let letter := match s.short? with
    | some c => s!"-{c}, "
    | none => "    "
  let value := if s.takesValue then s!" <{placeholder s.long}>" else ""
  s!"{letter}--{s.long}{value}"

def help : OptionSpec := ⟨"help", some 'h', false, "Print help"⟩

def version : OptionSpec := ⟨"version", some 'V', false, "Print version"⟩

end OptionSpec

/-- Two columns, the first as wide as its widest entry. -/
def columns (rows : List (String × String)) : String :=
  let width := (rows.map fun r => r.1.length).foldl max 0
  String.join (rows.map fun (a, b) =>
    let gap := String.ofList (List.replicate (width - a.length + 2) ' ')
    s!"  {a}{gap}{b}\n")

/-- A titled part of a help text. A part without rows is left out. -/
def part (title : String) (rows : List (String × String)) : String :=
  if rows.isEmpty then "" else s!"\n{title}:\n{columns rows}"

def optionsPart (specs : List OptionSpec) : String := part "Options" (specs.map fun s => (s.spelling, s.purpose))

/-- What is said about a command: what it does, how it is called, its arguments and its options. -/
structure Manual where
  name : String
  purpose : String
  call : String
  arguments : List (String × String)
  options : List OptionSpec

def Manual.text (m : Manual) : String :=
  let options := optionsPart (m.options ++ [.help])
  let arguments := part "Arguments" m.arguments
  s!"{m.purpose}\n\nUsage: {programName} {m.name}{m.call}\n{arguments}{options}"

def manuals : List Manual :=
  [⟨"analyze", "Run the sanitizer over a WAT source file and print the verdict", " <PATH>", [("<PATH>", "Strategy source")],
    []⟩,
   ⟨"run", "Load a strategy through the gateway and invoke it once",
    " [OPTIONS] --tier <TIER> --identity <IDENTITY> --market-data <MARKET_DATA>", [], Command.runSpecs⟩,
   ⟨"audit", "Print audit records, oldest first", " [OPTIONS]", [], Command.auditSpecs⟩,
   ⟨"verify-audit", "Check the hash chain of a JSON-lines audit file", " [PATH]",
    [("[PATH]", "Audit file; defaults to \x60audit.log_path\x60 from the configuration")], []⟩]

def helpPurpose : String := "Print this message or the help of the given subcommand(s)"

def programHelp : String :=
  let commands := part "Commands" (manuals.map (fun m => (m.name, m.purpose)) ++ [("help", helpPurpose)])
  let options := optionsPart (Invocation.specs ++ [.help, .version])
  "Security gateway for loading and executing trading strategies across trust tiers\n\n" ++
    s!"Usage: {programName} [OPTIONS] <COMMAND>\n{commands}{options}"

def helpText (command? : Option String) : String :=
  match command? with
  | none => programHelp
  | some name =>
    match manuals.find? (·.name == name) with
    | some m => m.text
    | none => s!"{helpPurpose}\n\nUsage: {programName} help [COMMAND]...\n"

def usageText : String :=
  s!"Usage: {programName} [OPTIONS] <COMMAND>\n\nFor more information, try '--help'.\n"

end StrategyHost.CommandLine
