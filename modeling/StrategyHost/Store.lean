import StrategyHost.Descriptor

/-! # Stores

`StrategyStore` holds the parameters and the sources of strategies, and `SharedTier` the snapshots that several
processes share, as bytes that nobody vouches for. Both can be made to fail. -/

namespace StrategyHost

inductive StoreError where
  | notFound (text : String)
  | unavailable (text : String)
  | serialization (text : String)
  | configuration (text : String)
deriving DecidableEq, Repr, Inhabited

namespace StoreError

def message : StoreError → String
  | notFound text => s!"Not found: {text}"
  | unavailable text => s!"Store unavailable: {text}"
  | serialization text => s!"Serialization error: {text}"
  | configuration text => s!"Configuration error: {text}"

def isRetryable : StoreError → Bool
  | unavailable _ => true
  | _ => false

def toJson (e : StoreError) : Json :=
  .obj [("error", .str "store"), ("message", .str e.message), ("retryable", .bool e.isRetryable)]

end StoreError

/-- An entry of a finite map kept as a list without repeated keys. -/
def assocPut {κ α : Type} [DecidableEq κ] (key : κ) (value : α) : List (κ × α) → List (κ × α)
  | [] => [(key, value)]
  | (k, v) :: rest => if k = key then (key, value) :: rest else (k, v) :: assocPut key value rest

def assocGet? {κ α : Type} [DecidableEq κ] (key : κ) : List (κ × α) → Option α
  | [] => none
  | (k, v) :: rest => if k = key then some v else assocGet? key rest

def assocErase {κ α : Type} [DecidableEq κ] (key : κ) (entries : List (κ × α)) : List (κ × α) :=
  entries.filter fun e => e.1 ≠ key

/-- Parameters by identity and sources by identity and version; the next `failures` reads fail. -/
structure StrategyStore where
  configs : List (String × Params)
  sources : List ((String × Nat) × String)
  failures : Nat
  reads : Nat
deriving Inhabited

namespace StrategyStore

def empty : StrategyStore := ⟨[], [], 0, 0⟩

def putConfig (s : StrategyStore) (identity : String) (params : Params) : StrategyStore :=
  { s with configs := assocPut identity params s.configs }

def putSource (s : StrategyStore) (identity : String) (version : Nat) (source : String) : StrategyStore :=
  { s with sources := assocPut (identity, version) source s.sources }

def failNext (s : StrategyStore) (n : Nat) : StrategyStore := { s with failures := n }

/-- One read: it is counted, and fails as long as failures are due. -/
def read {α : Type} (s : StrategyStore) (found : Option α) (what : String) : Except StoreError α × StrategyStore :=
  let s := { s with reads := s.reads + 1 }
  if 0 < s.failures then (.error (.unavailable "injected failure"), { s with failures := s.failures - 1 })
  else
    match found with
    | some a => (.ok a, s)
    | none => (.error (.notFound what), s)

def readConfig (s : StrategyStore) (identity : String) : Except StoreError Params × StrategyStore :=
  s.read (assocGet? identity s.configs) s!"config for {identity}"

def readSource (s : StrategyStore) (identity : String) (version : Nat) :
    Except StoreError String × StrategyStore :=
  s.read (assocGet? (identity, version) s.sources) s!"source for {identity}@{version}"

end StrategyStore

/-- Snapshots under one text per identity and version. -/
structure SharedTier where
  entries : List (String × ByteArray)
  offline : Bool
deriving Inhabited

namespace SharedTier

def empty : SharedTier := ⟨[], false⟩

def keyFor (identity : String) (version : Nat) : String := s!"strategy:{identity}:{version}"

/-- A result of a tier that can be reached. -/
def online {α : Type} (t : SharedTier) (a : α) : Except StoreError α :=
  if t.offline then .error (.unavailable "shared tier offline") else .ok a

def get (t : SharedTier) (identity : String) (version : Nat) : Except StoreError (Option ByteArray) :=
  t.online (assocGet? (keyFor identity version) t.entries)

def put (t : SharedTier) (identity : String) (version : Nat) (payload : ByteArray) :
    Except StoreError SharedTier :=
  t.online { t with entries := assocPut (keyFor identity version) payload t.entries }

def delete (t : SharedTier) (identity : String) (version : Nat) : Except StoreError SharedTier :=
  t.online { t with entries := assocErase (keyFor identity version) t.entries }

/-- Whether there is a snapshot; this can be told of a tier that is offline, too. -/
def contains (t : SharedTier) (identity : String) (version : Nat) : Bool :=
  (assocGet? (keyFor identity version) t.entries).isSome

def size (t : SharedTier) : Nat := t.entries.length

end SharedTier

end StrategyHost
