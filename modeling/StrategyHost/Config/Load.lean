import StrategyHost.Config.Basic
import StrategyHost.Config.Shape

/-! # Loading a configuration

`Config.load` lays the sources together: two files that may be missing, a file that is asked for, and the environment.
Whatever none of them says has its default. -/

namespace StrategyHost

inductive ConfigFault where
  /-- A source is missing or malformed, or a setting is of the wrong type. -/
  | unreadable
  /-- The settings are refused by `Config.fault?`. -/
  | refused (message : String)
deriving DecidableEq, Repr

namespace Config

def defaultFiles : List String := ["gateway.toml", "config/gateway.toml"]

/-- The sources in the order in which they count. -/
def sources (d : Directory) (path? : Option String) (environment : List (String × String)) : Option (List Settings) := do
  let files ← defaultFiles.mapM fun name => readFile d name false
  let asked ← path?.toList.mapM fun name => readFile d name true
  return files ++ asked ++ [readEnvironment environment]

def ofSettings (settings : Json) : Except ConfigFault Config :=
  match Shape.config.fit? settings with
  | none => .error .unreadable
  | some fitted =>
    match Json.decodeValue decoder fitted with
    | .error _ => .error .unreadable
    | .ok c =>
      match c.fault? with
      | some message => .error (.refused message)
      | none => .ok c

def load (d : Directory) (path? : Option String) (environment : List (String × String)) : Except ConfigFault Config :=
  match sources d path? environment with
  | none => .error .unreadable
  | some ss => ofSettings (ss.foldl layer (.obj []))

end Config

end StrategyHost
