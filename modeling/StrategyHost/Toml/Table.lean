import StrategyHost.Toml.Scalar

/-! # TOML tables

A table is defined once: by its header, by the dotted keys of one section, or as a value. `Table.define` and
`Table.append` follow headers and `Table.set` keys; each refuses what would define something twice. -/

namespace StrategyHost.Toml

mutual

/-- A table. It is `implicit` as long as only tables within it have been named, and `dotted` if a dotted key has made
it. -/
inductive Table where
  | mk (implicit dotted : Bool) (items : Entries)

inductive Entries where
  | nil
  | cons (key : String) (item : Item) (rest : Entries)

inductive Item where
  | value (v : Json)
  | table (t : Table)
  /-- Tables under one header, the last one first. -/
  | tables (last : Table) (before : Tables)

inductive Tables where
  | nil
  | cons (t : Table) (rest : Tables)

end

instance : Inhabited Table := ⟨.mk false false .nil⟩

namespace Entries

def find? (key : String) : Entries → Option Item
  | nil => none
  | cons k item rest => if k = key then some item else find? key rest

/-- Puts an item in the place of the one under the same key, or behind all others. -/
def put (key : String) (item : Item) : Entries → Entries
  | nil => .cons key item .nil
  | cons k old rest => if k = key then .cons k item rest else .cons k old (put key item rest)

end Entries

namespace Table

def isImplicit : Table → Bool
  | mk implicit _ _ => implicit

def isDotted : Table → Bool
  | mk _ dotted _ => dotted

def items : Table → Entries
  | mk _ _ items => items

/-- A table with a header of its own. -/
def explicit (items : Entries) : Table := mk false false items

def withItem (t : Table) (key : String) (item : Item) : Table := mk t.isImplicit t.isDotted (t.items.put key item)

/-- Changes the table that a path leads to. Tables on the way are made if they are missing; a dotted key does not enter
a table that has been defined. -/
def modifyAt (dotted : Bool) (f : Table → Option Table) : List String → Table → Option Table
  | [], t => f t
  | key :: path, t =>
    match t.items.find? key with
    | none => (modifyAt dotted f path (.mk true dotted .nil)).map fun u => t.withItem key (.table u)
    | some (.value _) => none
    | some (.table u) =>
      if dotted && !u.isImplicit then none else (modifyAt dotted f path u).map fun u => t.withItem key (.table u)
    | some (.tables last before) =>
      (modifyAt dotted f path last).map fun u => t.withItem key (.tables u before)

/-- Follows the header of a table. -/
def define (path : List String) (root : Table) : Option Table :=
  match path.getLast? with
  | none => none
  | some key =>
    root.modifyAt false (fun parent =>
      match parent.items.find? key with
      | none => some (parent.withItem key (.table (explicit .nil)))
      | some (.table t) =>
        if t.isImplicit && !t.isDotted then some (parent.withItem key (.table (explicit t.items))) else none
      | some _ => none) path.dropLast

/-- Follows the header of one more table of an array. -/
def append (path : List String) (root : Table) : Option Table :=
  match path.getLast? with
  | none => none
  | some key =>
    root.modifyAt false (fun parent =>
      match parent.items.find? key with
      | none => some (parent.withItem key (.tables (explicit .nil) .nil))
      | some (.tables last before) => some (parent.withItem key (.tables (explicit .nil) (.cons last before)))
      | some _ => none) path.dropLast

/-- Sets a value under a key, which may be dotted. -/
def set (key : List String) (v : Json) (t : Table) : Option Table :=
  match key.getLast? with
  | none => none
  | some name =>
    let path := key.dropLast
    t.modifyAt true (fun u =>
      if u.isDotted == path.isEmpty || (u.items.find? name).isSome then none
      else some (u.withItem name (.value v))) path

/-- Sets a value in the table of the section `path`. -/
def setIn (path key : List String) (v : Json) (root : Table) : Option Table := root.modifyAt false (set key v) path

mutual

def toJson : Table → Json
  | .mk _ _ items => .obj (entriesToJson items)

def entriesToJson : Entries → List (String × Json)
  | .nil => []
  | .cons key item rest => (key, itemToJson item) :: entriesToJson rest

def itemToJson : Item → Json
  | .value v => v
  | .table t => toJson t
  | .tables last before => .arr ((toJson last :: tablesToJson before).reverse)

def tablesToJson : Tables → List Json
  | .nil => []
  | .cons t rest => toJson t :: tablesToJson rest

end

end Table

end StrategyHost.Toml
