import StrategyHost.Directory
import StrategyHost.Json.Decoder
import StrategyHost.Toml.Document

/-! # Sources of a configuration

A configuration is laid together from files and from the environment. Each source is an object; `merge` lets a later
source override single keys of earlier ones. -/

namespace StrategyHost.Config

/-- An object that is being laid together. -/
abbrev Settings := List (String × Json)

/-- Puts a value in the place of the one under the same key, or behind all others. -/
def putSetting (key : String) (v : Json) : Settings → Settings
  | [] => [(key, v)]
  | (k, old) :: rest => if k = key then (k, v) :: rest else (k, old) :: putSetting key v rest

mutual

/-- The value `v` over an older one: objects are joined, anything else is replaced. -/
def merge (old : Option Json) : Json → Json
  | .obj fields => .obj (mergeFields ((old.map Json.fields).getD []) fields)
  | v => v

def mergeFields (settings : Settings) : List (String × Json) → Settings
  | [] => settings
  | (k, v) :: rest => mergeFields (putSetting k (merge (settings.lookup k) v) settings) rest

end

/-- The value under a path, with `v` laid over it. -/
def mergeAt (v : Json) : List String → Option Json → Json
  | [], old => merge old v
  | key :: path, old =>
    let settings := (old.map Json.fields).getD []
    .obj (putSetting key (mergeAt v path (settings.lookup key)) settings)

def isKeyChar (c : Char) : Bool := c.isAlphanum || c == ' ' || c == '_' || c == '-'

/-- The path that a key of a source means. A key that is no path means itself. -/
def pathOf (key : String) : List String :=
  let parts := key.splitOn "."
  if parts.all fun p => !p.isEmpty && p.toList.all isKeyChar then parts else [key]

def layer (settings : Json) (source : Settings) : Json :=
  source.foldl (fun acc (k, v) => mergeAt v (pathOf k) (some acc)) settings

/-! ## Files -/

def fileEndings : List String := ["toml", "json", "json5", "yaml", "yml", "ini", "ron"]

def parseFile (ending text : String) : Option Settings :=
  let value := match ending with
    | "toml" => Toml.parse? text
    | "json" =>
      match Json.parse text with
      | .ok v => some v
      | .error _ => none
    | _ => none
  match value with
  | some (.obj fields) => some fields
  | _ => none

/-- The file of a name and its ending: the name itself, or the name with an ending added. -/
def findFile (d : Directory) (name : String) : Option (String × String) :=
  let path := FilePath.ofString name
  match d.files.lookup path with
  | some text =>
    match path.extension? with
    | some ending => if fileEndings.contains ending then some (ending, text) else none
    | none => none
  | none => fileEndings.findSome? fun ending => (d.files.lookup (.ofString s!"{name}.{ending}")).map (ending, ·)

/-- The settings of a file, which may be missing unless it is required. A file that is there must be readable. -/
def readFile (d : Directory) (name : String) (required : Bool) : Option Settings :=
  match findFile d name with
  | none => if required then none else some []
  | some (ending, text) => parseFile ending text

/-! ## Environment -/

def environmentMark : String := "gateway__"

/-- A whole number of 64 bits with an optional sign. -/
def readInteger? (text : String) : Option Int :=
  let (negative, digits) := match text.toList with
    | '-' :: ds => (true, ds)
    | '+' :: ds => (false, ds)
    | ds => (false, ds)
  if digits.isEmpty || !digits.all Char.isDigit then none
  else
    let n : Int := Double.Numeral.natOf digits
    let n := if negative then -n else n
    if -(2 ^ 63) ≤ n && n < 2 ^ 63 then some n else none

/-- A natural number of 64 bits, which may bear a plus sign. -/
def readNatural? (text : String) : Option Nat :=
  let digits := match text.toList with
    | '+' :: ds => ds
    | ds => ds
  if digits.isEmpty || !digits.all Char.isDigit then none
  else
    let n := Double.Numeral.natOf digits
    if n < 2 ^ 64 then some n else none

/-- The value of a variable: a boolean, a number, or a text. -/
def readVariable (text : String) : Json :=
  if text.toLower = "true" then .bool true
  else if text.toLower = "false" then .bool false
  else
    match readInteger? text with
    | some n => .int n
    | none =>
      match Double.read? text with
      | some x => .float x
      | none => .str text

/-- The settings of the variables that bear the mark. Double underscores part the names on a path. -/
def readEnvironment (environment : List (String × String)) : Settings :=
  environment.filterMap fun (name, text) =>
    let name := name.toLower
    if name.startsWith environmentMark then
      some (((name.drop environmentMark.length).toString).replace "__" ".", readVariable text)
    else none

end StrategyHost.Config
