import StrategyHost.Capability
import StrategyHost.Config.Source

/-! # Shapes of settings

What stands in a file or a variable may be of a looser type than a setting wants: a text that spells a number, a number
for a flag. A `Shape` says what is wanted where, and `Shape.fit?` gives settings that form, or nothing if they have no
meaning there. -/

namespace StrategyHost.Config

inductive Shape where
  /-- A natural number, of which so many bits are kept. -/
  | number (bits : Nat)
  | flag
  | text
  /-- A text or null. -/
  | optionalText
  | list (item : Shape)
  /-- Texts by name. -/
  | texts
  /-- One of some names, in any case. -/
  | choice (names : List String)
  | record (fields : List (String × Shape))

namespace Shape

/-- The nearest natural number of 64 bits, a half away from zero. -/
def ofDouble (x : Float) : Nat := x.round.toUInt64.toNat

def yes : List String := ["true", "on", "yes"]

def no : List String := ["false", "off", "no"]

def number? : Json → Option Nat
  | .int n => if n < 0 then none else some n.toNat
  | .float x => some (ofDouble x)
  | .bool b => some b.toNat
  | .str s => if yes.contains s.toLower then some 1 else if no.contains s.toLower then some 0 else readNatural? s
  | _ => none

def flag? : Json → Option Bool
  | .bool b => some b
  | .int n => some (n ≠ 0)
  | .float x => some (x != 0)
  | .str s =>
    if ("1" :: yes).contains s.toLower then some true
    else if ("0" :: no).contains s.toLower then some false
    else none
  | _ => none

def text? : Json → Option String
  | .str s => some s
  | .bool b => some (if b then "true" else "false")
  | .int n => some (String.ofList (Json.spellInt n))
  | .float x => some (String.ofList (Double.plain x))
  | _ => none

/-- The name that a text, or an object of one field, stands for. -/
def choice? (names : List String) (v : Json) : Option String :=
  let find (s : String) : Option String := names.find? fun n => n.toLower == s.toLower
  match v with
  | .str s => find s
  | .obj [(s, _)] => find s
  | _ => none

def textFields? : List (String × Json) → Option (List (String × Json))
  | [] => some []
  | (k, v) :: rest => do
    let s ← text? v
    return (k, .str s) :: (← textFields? rest)

def fitAll? (fit : Json → Option Json) : List Json → Option (List Json)
  | [] => some []
  | v :: vs => do
    let w ← fit v
    return w :: (← fitAll? fit vs)

mutual

/-- The form of a value under a shape. -/
def fit? : Shape → Json → Option Json
  | number bits, v => (number? v).map fun n => .ofNat (n % 2 ^ bits)
  | flag, v => (flag? v).map .bool
  | text, v => (text? v).map .str
  | optionalText, v => if v == .null then some .null else (text? v).map .str
  | list item, v =>
    match v with
    | .arr vs => (fitAll? (fit? item) vs).map .arr
    | _ => none
  | texts, v =>
    match v with
    | .obj fs => (textFields? fs).map .obj
    | _ => none
  | choice names, v => (choice? names v).map .str
  | record fields, v =>
    match v with
    | .obj fs => (fitFields? fields fs).map .obj
    | .arr vs => (fitItems? fields vs).map .arr
    | _ => none

def fitFields? : List (String × Shape) → List (String × Json) → Option (List (String × Json))
  | [], _ => some []
  | (name, shape) :: rest, fs => do
    let others ← fitFields? rest fs
    match fs.lookup name with
    | none => return others
    | some v => return (name, ← fit? shape v) :: others

def fitItems? : List (String × Shape) → List Json → Option (List Json)
  | (_, shape) :: rest, v :: vs => do
    let w ← fit? shape v
    return w :: (← fitItems? rest vs)
  | _, _ => some []

end

/-! ## The shape of a configuration -/

def budgets : Shape := record [("cpu_time_ms", number 64), ("memory_bytes", number 64), ("wall_clock_ms", number 64)]

def sanitizer : Shape := record [
  ("host_module", text), ("host_functions", list text), ("gated_functions", list text), ("denied_modules", texts),
  ("denied_functions", list text), ("max_source_bytes", number 64), ("memo_capacity", number 64)]

def limits : Shape := record [
  ("safe", budgets), ("low", budgets), ("medium", budgets), ("high", budgets), ("fuel_per_ms", number 64),
  ("epoch_tick_ms", number 64), ("grace_ms", number 64), ("max_concurrent", number 64)]

def capabilities : Shape := list (choice (Capability.all.map (·.1)))

def grants : Shape :=
  record [("safe", capabilities), ("low", capabilities), ("medium", capabilities), ("high", capabilities)]

def audit : Shape := record [
  ("queue_capacity", number 64), ("log_path", optionalText), ("retry_backoff_ms", number 64), ("max_retries", number 32),
  ("enqueue_attempts", number 64)]

def cache : Shape := record [("max_entries", number 64)]

def factory : Shape :=
  record [("eager_validation", flag), ("store_attempts", number 32), ("store_backoff_ms", number 64)]

def config : Shape := record [
  ("sanitizer", sanitizer), ("limits", limits), ("grants", grants), ("audit", audit), ("cache", cache),
  ("factory", factory)]

mutual

/-- The paths of the settings that are not records themselves. -/
def paths : Shape → List (List String)
  | record fields => fieldPaths fields
  | _ => [[]]

def fieldPaths : List (String × Shape) → List (List String)
  | [] => []
  | (name, shape) :: rest => (paths shape).map (name :: ·) ++ fieldPaths rest

end

end Shape

def variableNames : List String := Shape.config.paths.map fun path => environmentMark ++ "__".intercalate path

end StrategyHost.Config
