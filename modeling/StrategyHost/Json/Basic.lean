import StrategyHost.Double.Shortest

/-! # JSON values

`Json` holds whole numbers and doubles apart, as documents do. Fields keep the order they are given in;
`Json.sortFields` is the form in which untyped documents are kept: keys ascending, the last of equal keys. -/

namespace StrategyHost

inductive Json where
  | null
  | bool (b : Bool)
  | int (n : Int)
  | float (x : Float)
  | str (s : String)
  | arr (items : List Json)
  | obj (fields : List (String × Json))
deriving Inhabited, BEq

namespace Json

/-- A number that is not finite has no spelling and becomes null. -/
def ofFloat (x : Float) : Json := if Double.isFinite x then .float x else .null

def ofNat (n : Nat) : Json := .int n

/-- A field of an object; the last of equal keys counts. -/
def get? (key : String) : Json → Option Json
  | .obj fields => (fields.reverse.find? (·.1 == key)).map (·.2)
  | _ => none

/-- A member of an array or, by its decimal key, of an object. -/
def items : Json → List Json
  | .arr xs => xs
  | _ => []

def fields : Json → List (String × Json)
  | .obj fs => fs
  | _ => []

def asString? : Json → Option String
  | .str s => some s
  | _ => none

def asInt? : Json → Option Int
  | .int n => some n
  | _ => none

def asBool? : Json → Option Bool
  | .bool b => some b
  | _ => none

end Json

/-- Puts `v` under `key` into an ascending list of fields, in place of a value already there. -/
def insertField {α : Type} (key : String) (v : α) : List (String × α) → List (String × α)
  | [] => [(key, v)]
  | (k, w) :: rest =>
    if key < k then (key, v) :: (k, w) :: rest
    else if key = k then (key, v) :: rest
    else (k, w) :: insertField key v rest

/-- Ascending keys, the last of equal keys. -/
def sortFields {α : Type} (fields : List (String × α)) : List (String × α) :=
  fields.foldl (fun acc f => insertField f.1 f.2 acc) []

namespace Json

mutual

/-- The form of untyped documents: the fields of every object ascending. -/
def sorted : Json → Json
  | .arr xs => .arr (sortedItems xs)
  | .obj fs => .obj (sortFields (sortedFields fs))
  | .null => .null
  | .bool b => .bool b
  | .int n => .int n
  | .float x => .float x
  | .str s => .str s

def sortedItems : List Json → List Json
  | [] => []
  | x :: xs => sorted x :: sortedItems xs

def sortedFields : List (String × Json) → List (String × Json)
  | [] => []
  | (k, v) :: fs => (k, sorted v) :: sortedFields fs

end

end Json

end StrategyHost
