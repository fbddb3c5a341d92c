import StrategyHost.Json.Document
import StrategyHost.Json.Printer

/-! # Typed reading of documents

A `Decoder α` reads a value of type `α` from a document and reports the first problem in reading order.
`decodeText` reads text and `decodeValue` a value that has been read already, for which every problem is
one of type. Records are read by `record` from a `Fields` description: unknown fields are skipped, a repeated
field is refused, and an array stands for its items under the fields in order. -/

namespace StrategyHost.Json

/-- Containers nested deeper than this are refused. -/
def maxDepth : Nat := 127

abbrev Decoder (α : Type) := Doc → Except Fault α

def mismatch {α : Type} : Except Fault α := .error (.mismatch none)

/-- The fault of a document of a type that is not wanted. -/
def unexpected {α : Type} : Doc → Except Fault α
  | .broken f => .error f
  | .str none => .error .malformed
  | .num none => .error .malformed
  | _ => mismatch

/-- The fault of a document that is not looked at. A surrogate of its own and a number that is too
large pass. -/
def skip : Doc → Option Fault
  | .broken f => some f
  | .arr _ items stop =>
    match skipItems items with
    | some f => some f
    | none => stop
  | .obj _ fields stop =>
    match skipFields fields with
    | some f => some f
    | none => stop
  | _ => none
where
  skipItems : List Doc → Option Fault
    | [] => none
    | d :: ds =>
      match skip d with
      | some f => some f
      | none => skipItems ds
  skipFields : List (Option String × Doc) → Option Fault
    | [] => none
    | (_, d) :: ds =>
      match skip d with
      | some f => some f
      | none => skipFields ds

/-- Refuses a container that is nested too deeply. -/
def checkLevel (level : Nat) : Except Fault Unit :=
  if maxDepth < level then .error .malformed else .ok ()

def checkStop {α : Type} (stop : Option Fault) (a : α) : Except Fault α :=
  match stop with
  | some f => .error f
  | none => .ok a

namespace Decoder

variable {α β : Type}

protected def map (f : α → β) (d : Decoder α) : Decoder β := fun doc => (d doc).map f

protected def bind (d : Decoder α) (f : α → Except Fault β) : Decoder β := fun doc => do f (← d doc)

def string : Decoder String
  | .str (some s) => .ok s
  | d => unexpected d

def bool : Decoder Bool
  | .bool b => .ok b
  | d => unexpected d

def number : Decoder Json
  | .num (some v) => .ok v
  | d => unexpected d

def intBetween (low high : Int) : Decoder Int := number.bind fun
  | .int n => if low ≤ n ∧ n ≤ high then .ok n else mismatch
  | _ => mismatch

def int64 : Decoder Int := intBetween (-2 ^ 63) (2 ^ 63 - 1)

def nat (bits : Nat) : Decoder Nat := (intBetween 0 (2 ^ bits - 1)).map Int.toNat

def float : Decoder Float := number.bind fun
  | .int n => .ok (if 0 ≤ n then n.toNat.toUInt64.toFloat else -(n.natAbs.toUInt64.toFloat))
  | .float x => .ok x
  | _ => mismatch

def option (d : Decoder α) : Decoder (Option α)
  | .null => .ok none
  | doc => (d doc).map some

def listItems (d : Decoder α) : List Doc → Except Fault (List α)
  | [] => .ok []
  | x :: xs => do
    let a ← d x
    let as ← listItems d xs
    return a :: as

def list (d : Decoder α) : Decoder (List α)
  | .arr level items stop => do
    checkLevel level
    let as ← listItems d items
    checkStop stop as
  | doc => unexpected doc

def mapFields (d : Decoder α) : List (Option String × Doc) → Except Fault (List (String × α))
  | [] => .ok []
  | (none, _) :: _ => .error .malformed
  | (some k, x) :: xs => do
    let a ← d x
    let as ← mapFields d xs
    return (k, a) :: as

/-- A map from strings, ascending; the last of equal keys counts. -/
def stringMap (d : Decoder α) : Decoder (List (String × α))
  | .obj level fields stop => do
    checkLevel level
    let fs ← mapFields d fields
    checkStop stop (sortFields fs)
  | doc => unexpected doc

/-- One of the named constants: a string, or an object that gives its name a null. -/
def enum (options : List (String × α)) : Decoder α
  | .str (some s) =>
    match options.find? (·.1 == s) with
    | some (_, a) => .ok a
    | none => mismatch
  | .str none => .error .malformed
  | .broken f => .error f
  | .obj level fields stop => do
    checkLevel level
    match fields with
    | [] => .error (stop.getD .malformed)
    | (none, _) :: _ => .error .malformed
    | (some k, d) :: more =>
      match options.find? (·.1 == k) with
      | none => mismatch
      | some (_, a) =>
        match d with
        | .null => if more.isEmpty then checkStop stop a else .error .malformed
        | d => unexpected d
  | _ => .error .malformed

mutual

/-- A document of any type, in sorted form. -/
def json : Decoder Json
  | .null => .ok .null
  | .bool b => .ok (.bool b)
  | .num (some v) => .ok v
  | .num none => .error .malformed
  | .str (some s) => .ok (.str s)
  | .str none => .error .malformed
  | .arr level items stop => do
    checkLevel level
    let xs ← jsonItems items
    checkStop stop (.arr xs)
  | .obj level fields stop => do
    checkLevel level
    let fs ← jsonFields fields
    checkStop stop (.obj (sortFields fs))
  | .broken f => .error f

def jsonItems : List Doc → Except Fault (List Json)
  | [] => .ok []
  | d :: ds => do
    let x ← json d
    let xs ← jsonItems ds
    return x :: xs

def jsonFields : List (Option String × Doc) → Except Fault (List (String × Json))
  | [] => .ok []
  | (none, _) :: _ => .error .malformed
  | (some k, d) :: ds => do
    let x ← json d
    let xs ← jsonFields ds
    return (k, x) :: xs

end

end Decoder

/-! ### Records -/

/-- What a record holds under a field: a document at a place in reading order, nothing, or, in the array
form, the end of the array. -/
inductive Slot where
  | present (place : Nat) (d : Doc)
  | absent (place : Nat)
  | pastEnd (place : Nat)

/-- The description of a record: its field names in order, and how a value is built from its slots. A
fault comes with its place, and of two faults the earlier counts. -/
structure Fields (α : Type) where
  names : List String
  read : (String → Slot) → Except (Nat × Fault) α

namespace Fields

variable {α β : Type}

/-- Of two faults the earlier. -/
def both : Except (Nat × Fault) (α → β) → Except (Nat × Fault) α → Except (Nat × Fault) β
  | .ok f, .ok a => .ok (f a)
  | .ok _, .error e => .error e
  | .error e, .ok _ => .error e
  | .error (i, f), .error (j, g) => .error (if j < i then (j, g) else (i, f))

protected def pure (a : α) : Fields α := ⟨[], fun _ => .ok a⟩

protected def seq (f : Fields (α → β)) (a : Unit → Fields α) : Fields β :=
  let a := a ()
  ⟨f.names ++ a.names, fun slot => both (f.read slot) (a.read slot)⟩

instance : Applicative Fields where
  pure := Fields.pure
  seq := Fields.seq
  map f a := ⟨a.names, fun slot => (a.read slot).map f⟩

def located (place : Nat) (r : Except Fault α) : Except (Nat × Fault) α := r.mapError (place, ·)

def required (name : String) (d : Decoder α) : Fields α where
  names := [name]
  read slot :=
    match slot name with
    | .present i doc => located i (d doc)
    | .absent i => located i mismatch
    | .pastEnd i => located i mismatch

def optional (name : String) (d : Decoder α) : Fields (Option α) where
  names := [name]
  read slot :=
    match slot name with
    | .present i doc => located i (d.option doc)
    | .absent _ => .ok none
    | .pastEnd i => located i mismatch

def withDefault (name : String) (a : α) (d : Decoder α) : Fields α where
  names := [name]
  read slot :=
    match slot name with
    | .present i doc => located i (d doc)
    | .absent _ => .ok a
    | .pastEnd _ => .ok a

/-- The first fault of an object's own form: a name or a skipped value that breaks, or a name that is
repeated. -/
def formFault (names : List String) (seen : List String) (place : Nat) :
    List (Option String × Doc) → Option (Nat × Fault)
  | [] => none
  | (none, _) :: _ => some (place, .malformed)
  | (some k, d) :: rest =>
    if names.contains k then
      if seen.contains k then some (place, .mismatch none) else formFault names (k :: seen) (place + 1) rest
    else
      match skip d with
      | some f => some (place, f)
      | none => formFault names seen (place + 1) rest

/-- The slot of a name among the fields of an object. -/
def objectSlot (fields : List (Option String × Doc)) (name : String) : Slot :=
  match fields.findIdx? (·.1 == some name) with
  | some i =>
    match fields[i]? with
    | some (_, d) => .present i d
    | none => .absent fields.length
  | none => .absent (fields.length + 1)

/-- The slot of a name among the items of an array. -/
def arraySlot (names : List String) (items : List Doc) (name : String) : Slot :=
  let i := names.findIdx (· == name)
  match items[i]? with
  | some d => .present i d
  | none => .pastEnd i

end Fields

/-- Of a result and a fault at a place, what comes first. -/
def earlier {α : Type} (r : Except (Nat × Fault) α) (fault? : Option (Nat × Fault)) : Except Fault α :=
  match r, fault? with
  | .ok a, none => .ok a
  | .ok _, some (_, f) => .error f
  | .error (_, f), none => .error f
  | .error (i, f), some (j, g) => .error (if j < i then g else f)

/-- A record, written as an object or as an array of its fields. -/
def Decoder.record {α : Type} (fs : Fields α) : Decoder α
  | .obj level fields stop => do
    checkLevel level
    let form := match Fields.formFault fs.names [] 0 fields with
      | some f => some f
      | none => stop.map (fields.length, ·)
    earlier (fs.read (Fields.objectSlot fields)) form
  | .arr level items stop => do
    checkLevel level
    let form := match stop with
      | some f => some (items.length, f)
      | none => if fs.names.length < items.length then some (fs.names.length, .malformed) else none
    earlier (fs.read (Fields.arraySlot fs.names items)) (form.map fun (i, f) => (min i fs.names.length, f))
  | doc => unexpected doc

/-! ### Entry points -/

def decodeText {α : Type} (d : Decoder α) (text : String) : Except Fault α := do
  let (doc, trailing) := readText text
  let a ← d doc
  checkStop trailing a

mutual

def toDoc : Json → Doc
  | .null => .null
  | .bool b => .bool b
  | .int n => .num (some (.int n))
  | .float x => .num (some (.float x))
  | .str s => .str (some s)
  | .arr xs => .arr 0 (toDocs xs) none
  | .obj fs => .obj 0 (toDocFields fs) none

def toDocs : List Json → List Doc
  | [] => []
  | x :: xs => toDoc x :: toDocs xs

def toDocFields : List (String × Json) → List (Option String × Doc)
  | [] => []
  | (k, v) :: fs => (some k, toDoc v) :: toDocFields fs

end

/-- Every fault of a value that has been read is one of type. -/
def Fault.ofValue : Fault → Fault
  | .mismatch m => .mismatch m
  | _ => .mismatch none

/-- Reads a value that has been read already. -/
def decodeValue {α : Type} (d : Decoder α) (v : Json) : Except Fault α := (d (toDoc v)).mapError Fault.ofValue

def parse (text : String) : Except Fault Json := decodeText Decoder.json text

end StrategyHost.Json
