import StrategyHost.Failure
import StrategyHost.Descriptor
import StrategyHost.Market
import StrategyHost.Text.Quoted
import StrategyHost.Word

/-! # Parameter schemas

A `Schema` declares the parameters of a strategy: kind, range and default of each, and rules between two of
them. `Schema.bind` accepts foreign parameters that fit, fills in the defaults and gives `Bound` parameters,
which `Bound.toParams` turns back into the untyped form. -/

namespace StrategyHost

/-- What a parameter may be, with its default. -/
inductive ParamKind where
  | integer (min max default : Int)
  | decimal (min max default : Decimal)
  | boolean (default : Bool)
  | choice (options : List String) (default : String)
deriving DecidableEq, Repr, Inhabited

inductive ParamValue where
  | integer (n : Int)
  | decimal (d : Decimal)
  | boolean (b : Bool)
  | choice (s : String)
deriving DecidableEq, Repr, Inhabited

namespace ParamValue

/-- The value of a numeric parameter. -/
def asDecimal? : ParamValue → Option Decimal
  | integer n => some (Decimal.ofInt n)
  | decimal d => some d
  | _ => none

protected def toString : ParamValue → String
  | integer n => String.ofList (Json.spellInt n)
  | decimal d => d.toString
  | boolean b => if b then "true" else "false"
  | choice s => s

def toJson : ParamValue → Json
  | integer n => .int n
  | decimal d => .str d.toString
  | boolean b => .bool b
  | choice s => .str s

end ParamValue

namespace ParamKind

def defaultValue : ParamKind → ParamValue
  | integer _ _ d => .integer d
  | decimal _ _ d => .decimal d
  | boolean d => .boolean d
  | choice _ d => .choice d

def toJson : ParamKind → Json
  | integer a b c => .obj [("integer", .arr [.int a, .int b, .int c])]
  | decimal a b c => .obj [("decimal", .arr [a.toJson, b.toJson, c.toJson])]
  | boolean b => .obj [("boolean", .bool b)]
  | choice os d => .obj [("choice", .arr (os.map .str)), ("default", .str d)]

/-- The decimal of a raw parameter: a number by its spelling in a document, or a text. -/
def readDecimal? : Json → Option Decimal
  | .int n => Decimal.read? (String.ofList (Json.spellInt n))
  | .float x => Decimal.read? (String.ofList (Json.spellFloat x))
  | .str s => Decimal.read? s
  | _ => none

def outside (value low high : String) : String := s!"{value} is outside the range {low}..={high}"

def wrongType (wanted : String) (raw : Json) : String :=
  let got := raw.compact
  s!"expected {wanted}, got {got}"

/-- The value of a raw parameter, or the reason why it does not fit. -/
def read (kind : ParamKind) (raw : Json) : Except String ParamValue :=
  match kind with
  | integer min max _ =>
    match raw with
    | .int n =>
      if 2 ^ 63 ≤ n then .error (wrongType "an integer" raw)
      else if n < min ∨ max < n then
        .error (outside (ParamValue.integer n).toString (ParamValue.integer min).toString
          (ParamValue.integer max).toString)
      else .ok (.integer n)
    | _ => .error (wrongType "an integer" raw)
  | decimal min max _ =>
    match readDecimal? raw with
    | some d =>
      if d.lt min || max.lt d then .error (outside d.toString min.toString max.toString)
      else .ok (.decimal d)
    | none => .error (wrongType "a decimal" raw)
  | boolean _ =>
    match raw with
    | .bool b => .ok (.boolean b)
    | _ => .error (wrongType "a boolean" raw)
  | choice options _ =>
    match raw with
    | .str s =>
      if options.contains s then .ok (.choice s)
      else
        let listed := String.intercalate ", " options
        .error s!"{Text.quoted s} is not one of {listed}"
    | _ => .error (wrongType "a string" raw)

end ParamKind

structure ParamSpec where
  name : String
  kind : ParamKind
  description : String
deriving DecidableEq, Repr, Inhabited

namespace ParamSpec

def integer (name : String) (min max default : Int) : ParamSpec := ⟨name, .integer min max default, ""⟩

def decimal (name : String) (min max default : Decimal) : ParamSpec := ⟨name, .decimal min max default, ""⟩

def boolean (name : String) (default : Bool) : ParamSpec := ⟨name, .boolean default, ""⟩

def describe (s : ParamSpec) (description : String) : ParamSpec := { s with description := description }

def toJson (s : ParamSpec) : Json :=
  .obj [("name", .str s.name), ("kind", s.kind.toJson), ("description", .str s.description)]

/-- The value of the parameter: the supplied one if it fits, else the default. -/
def bind (s : ParamSpec) (raw? : Option Json) : Except LoadError ParamValue :=
  match raw? with
  | some raw => (s.kind.read raw).mapError (.invalidParameter s.name)
  | none => .ok s.kind.defaultValue

end ParamSpec

/-- Parameters that passed a schema, ascending by name. -/
abbrev Bound := List (String × ParamValue)

namespace Bound

def get? (b : Bound) (name : String) : Option ParamValue := (b.find? (·.1 == name)).map (·.2)

def missing {α : Type} (name : String) : Except LoadError α :=
  .error (.internal s!"bound parameters lack {Text.quoted name}")

def integer (b : Bound) (name : String) : Except LoadError Int :=
  match b.get? name with
  | some (.integer n) => .ok n
  | _ => missing name

def period (b : Bound) (name : String) : Except LoadError Nat := do
  let n ← b.integer name
  if n < 0 then .error (.invalidParameter name s!"{(ParamValue.integer n).toString} is not a valid length")
  else .ok n.toNat

def decimal (b : Bound) (name : String) : Except LoadError Decimal :=
  match b.get? name with
  | some (.decimal d) => .ok d
  | _ => missing name

def boolean (b : Bound) (name : String) : Except LoadError Bool :=
  match b.get? name with
  | some (.boolean v) => .ok v
  | _ => missing name

def choice (b : Bound) (name : String) : Except LoadError String :=
  match b.get? name with
  | some (.choice s) => .ok s
  | _ => missing name

def toParams (b : Bound) : Params := b.map fun (name, value) => (name, value.toJson)

end Bound

/-- A rule between two numeric parameters: the one named `lower` is less than the one named `upper`. -/
structure LessThan where
  lower : String
  upper : String
deriving DecidableEq, Repr, Inhabited

/-- How bound parameters violate a rule, if they do. A side that is not numeric is not compared. -/
def LessThan.violation? (r : LessThan) (b : Bound) : Option LoadError :=
  match (b.get? r.lower).bind ParamValue.asDecimal?, (b.get? r.upper).bind ParamValue.asDecimal? with
  | some low, some high =>
    if high.le low then
      some (.invalidParameter r.lower
        s!"{r.lower} ({low.toString}) must be less than {r.upper} ({high.toString})")
    else none
  | _, _ => none

structure Schema where
  specs : List ParamSpec
  rules : List LessThan
deriving DecidableEq, Repr, Inhabited

namespace Schema

def defaults (s : Schema) : Bound := sortFields (s.specs.map fun p => (p.name, p.kind.defaultValue))

/-- The declarations, and what they give when nothing is supplied. -/
def toFields (s : Schema) : List (String × Json) :=
  [("specs", .arr (s.specs.map ParamSpec.toJson)), ("defaults", s.defaults.toParams.toJson)]

/-- The first parameter, ascending by name, that is not declared. -/
def unknown? (s : Schema) (params : Params) : Option String :=
  (params.find? fun (key, _) => !s.specs.any (·.name == key)).map (·.1)

def bindSpecs (params : Params) : List ParamSpec → Except LoadError (List (String × ParamValue))
  | [] => .ok []
  | p :: ps => do
    let v ← p.bind (params.get? p.name)
    let vs ← bindSpecs params ps
    return (p.name, v) :: vs

/-- Accepts parameters that are declared, fit their kinds and keep the rules. -/
def bind (s : Schema) (params : Params) : Except LoadError Bound := do
  match s.unknown? params with
  | some key => .error (.invalidParameter key "unknown parameter")
  | none =>
    let bound := sortFields (← bindSpecs params s.specs)
    match s.rules.findSome? (·.violation? bound) with
    | some e => .error e
    | none => .ok bound

end Schema

end StrategyHost
