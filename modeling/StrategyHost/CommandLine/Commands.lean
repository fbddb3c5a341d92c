import StrategyHost.CommandLine.Help
import StrategyHost.Config.Load
import StrategyHost.Gateway.Basic

/-! # Commands

`execute` runs the program on its arguments: it takes the time, the environment and the files of the working directory,
and gives what the program prints, how it ends, and the files it leaves behind. -/

namespace StrategyHost.CommandLine

/-- What a run of the program shows: its exit code and its two outputs. -/
structure Outcome where
  code : Nat
  out : String
  err : String
deriving DecidableEq, Repr, Inhabited

/-- Why a command fails. A crash leaves no report. -/
inductive Failure where
  | report (message : String) (cause? : Option String)
  | crash
deriving DecidableEq, Repr

namespace Failure

/-- The text of a failure on the error output. -/
def text : Failure → String
  | report message none => s!"Error: {message}\n"
  | report message (some cause) => s!"Error: {message}\n\nCaused by:\n    {cause}\n"
  | crash => ""

def code : Failure → Nat
  | report .. => 1
  | crash => 101

end Failure

/-- What commands work on: the time, the environment, the files, and what has been printed. -/
structure Desk where
  now : Instant
  environment : List (String × String)
  files : Directory
  printed : String

/-- A command at work. What it has printed and written stays when it fails. -/
abbrev Work := ExceptT Failure (StateM Desk)

namespace Work
variable {α : Type}

def fail (message : String) : Work α := throw (.report message none)

def print (line : String) : Work Unit := modify fun d => { d with printed := d.printed ++ line ++ "\n" }

/-- A value, or a failure that is told with its cause. -/
def orFail (message : String) : Except String α → Work α
  | .ok a => return a
  | .error cause => throw (.report message (some cause))

def ofAudit : Except Audit.AuditError α → Work α
  | .ok a => return a
  | .error e => fail e.message

def readFile (path : String) : Work String := do
  orFail s!"reading {path}" (((← get).files.read path).mapError FileError.message)

def decode (what : String) (d : Json.Decoder α) (text : String) : Work α :=
  orFail s!"parsing {what}" ((Json.decodeText d text).mapError Json.Fault.message)

end Work

/-! ## Audit files -/

/-- The records of an audit file that must be there. -/
def readAuditFile (path : String) : Work (List Audit.Sealed) := do
  let text ← .ofAudit (((← get).files.read path).mapError .io)
  .ofAudit ((Audit.readLines text).mapError .unreadable)

/-- A logger on the audit file of the configuration, which is made if it is missing. Without a file the trail is
empty. -/
def openAudit (config : Audit.Config) : Work Audit.Logger := do
  match config.logPath with
  | none => return .start config ⟨[], 0⟩
  | some path =>
    let (text, files) ← .ofAudit (((← get).files.openForAppend path).mapError .io)
    modify fun d => { d with files }
    .ofAudit (Audit.Logger.ofText config text)

/-- Writes the lines that a logger has added to its file. -/
def closeAudit (config : Audit.Config) (before after : Audit.Logger) : Work Unit := do
  match config.logPath with
  | none => return ()
  | some path =>
    let text ← .ofAudit (((← get).files.read path).mapError .io)
    modify fun d => { d with files := d.files.write path (text ++ after.linesSince before) }

/-! ## The commands -/

/-- Prints the verdict on a source, and fails if it is rejected. -/
def analyze (config : Config) (path : String) : Work Unit := do
  let source ← Work.readFile path
  let (verdict, _) := (Sanitizer.new Wasm.plainComponent config.sanitizer).analyze source
  Work.print verdict.toJson.pretty
  if verdict.isRejected then Work.fail verdict.summary

def descriptorOf (o : RunOptions) : Work Descriptor := do
  let payload ← match o.tier with
    | .predefined => pure Payload.predefined
    | .configured =>
      match o.params? with
      | none => pure (.configured [])
      | some text => .configured <$> Work.decode "--params" Params.decoder text
    | .dynamic =>
      match o.source? with
      | none => Work.fail "--source is required for a dynamic strategy"
      | some path => .dynamic <$> Work.readFile path
  return ⟨o.identity, o.version, payload, o.actor⟩

def session (d : Descriptor) (data : MarketData) : Act (Except String SignalSet) := do
  match ← Act.create d with
  | .error e => return .error e.message
  | .ok h =>
    let (result, events) := h.invoke d.actor data
    events.forM Act.emit
    return result.mapError RunError.message

/-- Runs a strategy on the market data of a file, and prints its signals. Its events are on record before it is told
how the run went. There is no database at hand, and a cache that is to be shared stays a local one. -/
def run (config : Config) (o : RunOptions) : Work Unit := do
  let logger ← openAudit config.audit
  if o.fromStore then
    match (← get).environment.lookup "DATABASE_URL" with
    | none => Work.fail "DATABASE_URL is not set"
    | some _ => Work.fail (StoreError.unavailable "no database can be reached").message
  let data ← Work.decode "market data" MarketData.decoder (← Work.readFile o.marketData)
  let d ← descriptorOf o
  let (result, scene) := (session d data).run ⟨.new config, ⟨none, none, 0⟩, []⟩
  closeAudit config.audit logger (logger.recordAll (← get).now scene.events)
  match result with
  | .ok signals => Work.print signals.toJson.pretty
  | .error message => Work.fail message

/-- Prints the audit records that a filter admits, one to a line. -/
def audit (config : Config) (filter : Audit.Filter) : Work Unit := do
  if config.audit.logPath.isNone then Work.fail "audit.log_path is not configured"
  let logger ← openAudit config.audit
  (logger.query filter).forM fun r => Work.print r.toJson.compact

def verifyAudit (config : Config) (path? : Option String) : Work Unit := do
  match path? <|> config.audit.logPath with
  | none => Work.fail "no audit file given and audit.log_path is not configured"
  | some path =>
    match Audit.verifyChain (← readAuditFile path) with
    | .ok count => Work.print s!"{count} records verified"
    | .error fault => throw (.report s!"audit chain in {path} is broken" (some (Audit.AuditError.chain fault).message))

/-- The directory for the logs of the program must be one that can be there. -/
def checkLogDirectory (path : String) : Work Unit := do
  let p := FilePath.ofString path
  let files := (← get).files
  if files.isFile p || files.throughFile p then throw .crash

def invoke (i : Invocation) : Work Unit := do
  checkLogDirectory i.logDirectory
  let desk ← get
  match Config.load desk.files i.config? desk.environment with
  | .error (.refused message) => throw (.report "loading gateway configuration" (some message))
  | .error .unreadable => Work.fail "loading gateway configuration"
  | .ok config =>
    match i.command with
    | .analyze path => analyze config path
    | .run options => run config options
    | .audit identity? eventType? limit? => audit config ⟨identity?, eventType?, none, limit?⟩
    | .verifyAudit path? => verifyAudit config path?

def execute (now : Instant) (environment : List (String × String)) (files : Directory) (args : List String) :
    Outcome × Directory :=
  match Invocation.read args with
  | .error (.help topic?) => (⟨0, helpText topic?, ""⟩, files)
  | .error .version => (⟨0, versionText, ""⟩, files)
  | .error .usage => (⟨2, "", usageText⟩, files)
  | .ok i =>
    let (result, desk) := (invoke i).run.run ⟨now, environment, files, ""⟩
    match result with
    | .ok () => (⟨0, desk.printed, ""⟩, desk.files)
    | .error f => (⟨f.code, desk.printed, f.text⟩, desk.files)

end StrategyHost.CommandLine
