import StrategyHost.Toml.Table

/-! # TOML documents

`Toml.parse?` reads a whole document as an object. Values nest to a depth of `maxDepth`. -/

namespace StrategyHost.Toml

def maxDepth : Nat := 80

def items (value : Read Json) : Nat → Read (List Json)
  | 0, _ => none
  | n + 1, cs =>
    match skipSpace false cs with
    | ']' :: rest => some ([], rest)
    | cs => do
      let (v, rest) ← value cs
      match skipSpace false rest with
      | ',' :: rest =>
        let (vs, rest) ← items value n rest
        return (v :: vs, rest)
      | ']' :: rest => return ([v], rest)
      | _ => none

def keyValue (value : Read Json) : Read (List String × Json) := fun cs => do
  let (k, rest) ← key cs
  let '=' :: rest := rest | none
  let (v, rest) ← value (skipBlanks rest)
  return ((k, v), rest)

/-- The fields of an inline table, up to its end. There is at least one. -/
def inlineFields (value : Read Json) : Nat → Table → Read Table
  | 0, _, _ => none
  | n + 1, t, cs => do
    let ((k, v), rest) ← keyValue value (skipBlanks cs)
    let t ← t.set k v
    match skipBlanks rest with
    | ',' :: rest => inlineFields value n t rest
    | '\x7d' :: rest => return (t, rest)
    | _ => none

def value : Nat → Read Json
  | 0, _ => none
  | n + 1, cs =>
    match string? cs with
    | some read => read.map fun (text, rest) => (.str (String.ofList text), rest)
    | none =>
      match cs with
      | '[' :: rest => (items (value n) cs.length rest).map fun (vs, rest) => (.arr vs, rest)
      | '\x7b' :: rest =>
        match skipBlanks rest with
        | '\x7d' :: rest => some (.obj [], rest)
        | rest => (inlineFields (value n) cs.length (.explicit .nil) rest).map fun (t, rest) => (t.toJson, rest)
      | cs => bare cs

def header (root : Table) (cs : Input) : Option (List String × Table × Input) :=
  match cs with
  | '[' :: cs => do
    let (path, rest) ← key cs
    let ']' :: ']' :: rest := rest | none
    return (path, ← root.append path, rest)
  | cs => do
    let (path, rest) ← key cs
    let ']' :: rest := rest | none
    return (path, ← root.define path, rest)

/-- Reads the lines of a document into `root`; `path` is that of the running section. -/
def lines : Nat → List String → Table → Input → Option Table
  | 0, _, _, _ => none
  | n + 1, path, root, cs =>
    match skipBlanks cs with
    | [] => some root
    | '[' :: rest => do
      let (path, root, rest) ← header root rest
      lines n path root (← lineEnd? rest)
    | c :: rest =>
      if c == '#' || (newline? (c :: rest)).isSome then do lines n path root (← lineEnd? (c :: rest))
      else do
        let ((k, v), rest) ← keyValue (value maxDepth) (c :: rest)
        lines n path (← root.setIn path k v) (← lineEnd? rest)

/-- The object that a document describes. A mark of the byte order may stand in front. -/
def parse? (text : String) : Option Json :=
  let cs := match text.toList with
    | '\ufeff' :: cs => cs
    | cs => cs
  (lines (cs.length + 1) [] (.explicit .nil) cs).map Table.toJson

end StrategyHost.Toml
