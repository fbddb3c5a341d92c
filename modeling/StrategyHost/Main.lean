import StrategyHost.CommandLine.Commands

/-! # The program

`main` gathers what `CommandLine.execute` works on, prints what it shows, and writes back the files that it has
changed. -/

namespace StrategyHost.Program

def environment : IO (List (String × String)) := do
  let names := "DATABASE_URL" :: (Config.variableNames.map String.toUpper ++ Config.variableNames)
  names.filterMapM fun name => return (← IO.getEnv name).map (name, ·)

def readFiles (paths : List String) : IO (List (String × String)) :=
  paths.filterMapM fun (path : String) => do
    try
      let text ← IO.FS.readFile path
      return some (path, text)
    catch _ => return none

/-- The files that arguments and the places of configurations may name. -/
def candidates (args : List String) : List String :=
  let named := args.flatMap fun a => a :: (a.splitOn "=").drop 1
  (Config.defaultFiles ++ named).flatMap fun path => path :: Config.fileEndings.map fun ending => s!"{path}.{ending}"

/-- The audit file of the configuration that arguments lead to. -/
def auditFile? (files : Directory) (settings : List (String × String)) (args : List String) : Option String :=
  match CommandLine.Invocation.read args with
  | .error _ => none
  | .ok i =>
    match Config.load files i.config? settings with
    | .error _ => none
    | .ok config => config.audit.logPath

/-- The time, which is that of a file made now. -/
def now : IO Instant := do
  let (_, path) ← IO.FS.createTempFile
  let modified := (← path.metadata).modified
  IO.FS.removeFile path
  return ⟨modified.sec, modified.nsec.toNat⟩

def writeFiles (before after : Directory) : IO Unit :=
  after.files.forM fun (path, text) => do
    if before.files.lookup path != some text then
      if 1 < path.length then IO.FS.createDirAll ("/".intercalate path.dropLast)
      IO.FS.writeFile ("/".intercalate path) text

def run (args : List String) : IO UInt32 := do
  let settings ← environment
  let files := Directory.ofList (← readFiles (candidates args))
  let audit ← readFiles (auditFile? files settings args).toList
  let files := audit.foldl (fun d (path, text) => d.write path text) files
  let (outcome, after) := CommandLine.execute (← now) settings files args
  writeFiles files after
  IO.print outcome.out
  IO.eprint outcome.err
  return outcome.code.toUInt32

end StrategyHost.Program

def main (args : List String) : IO UInt32 := StrategyHost.Program.run args
