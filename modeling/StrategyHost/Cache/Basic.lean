import StrategyHost.Config.Basic
import StrategyHost.Store

/-! # The cache of a process

A `Cache` keeps loaded strategies, the least recently used first, and knows which loads are running. It moves by atomic
steps: `lookup` hits an entry, joins a running load or begins one; `finish` ends a load, `release` lets go of its hold
on its generation, `invalidate` drops what a pair of identity and version has, and `shutdown` closes the cache.

Every pair with running loads has a generation, which `invalidate` raises. A load that began under an older one gives
its result to those who wait for it and leaves no entry. -/

namespace StrategyHost

/-- What is invalidated together. -/
abbrev Pair := String × Nat

def CacheKey.pair (k : CacheKey) : Pair := (k.identity, k.version)

structure CacheEntry (α : Type) where
  key : CacheKey
  value : α
  hits : Nat
deriving DecidableEq, Repr, Inhabited

/-- A load that later callers join. -/
structure PendingLoad where
  key : CacheKey
  id : Nat
deriving DecidableEq, Repr, Inhabited

structure Generation where
  pair : Pair
  value : Nat
  running : Nat
deriving DecidableEq, Repr, Inhabited

/-- A load that was begun: its number and the generation it began under. -/
structure Ticket where
  key : CacheKey
  id : Nat
  generation : Nat
deriving DecidableEq, Repr, Inhabited

structure Cache (α : Type) where
  maxEntries : Nat
  entries : List (CacheEntry α)
  pending : List PendingLoad
  generations : List Generation
  closed : Bool
  nextId : Nat
  hits : Nat
  misses : Nat
  sharedHits : Nat
  evictions : Nat
  invalidations : Nat
deriving DecidableEq, Repr, Inhabited

inductive Lookup (α : Type) where
  | closed
  | hit (value : α)
  | joined (id : Nat)
  | began (t : Ticket)
deriving DecidableEq, Repr

inductive LoadEnd (α : Type) where
  | loaded (value : α)
  | failed
  | crashed
deriving DecidableEq, Repr

namespace Cache
variable {α : Type}

def new (config : CacheConfig) : Cache α where
  maxEntries := config.maxEntries
  entries := []
  pending := []
  generations := []
  closed := false
  nextId := 0
  hits := 0
  misses := 0
  sharedHits := 0
  evictions := 0
  invalidations := 0

/-- There is room for one entry at least. -/
def capacity (c : Cache α) : Nat := max c.maxEntries 1

def entry? (c : Cache α) (key : CacheKey) : Option (CacheEntry α) := c.entries.find? (·.key = key)

def contains (c : Cache α) (key : CacheKey) : Bool := (c.entry? key).isSome

def size (c : Cache α) : Nat := c.entries.length

def stats (c : Cache α) : Json :=
  .obj [("entries", .ofNat c.size), ("in_flight", .ofNat c.pending.length), ("hits", .ofNat c.hits),
    ("misses", .ofNat c.misses), ("shared_hits", .ofNat c.sharedHits), ("evictions", .ofNat c.evictions),
    ("invalidations", .ofNat c.invalidations)]

/-! ## Generations -/

def generation? (c : Cache α) (pair : Pair) : Option Generation := c.generations.find? (·.pair = pair)

/-- The generation of a pair; one that is not kept counts as the first. -/
def generationOf (c : Cache α) (pair : Pair) : Nat :=
  match c.generation? pair with
  | some g => g.value
  | none => 0

/-- The generations with that of `pair` replaced by what `f` makes of it. -/
def updateGeneration (pair : Pair) (f : Generation → Generation) (gs : List Generation) : List Generation :=
  gs.map fun g => if g.pair = pair then f g else g

def hold (c : Cache α) (pair : Pair) : Cache α :=
  match c.generation? pair with
  | some _ =>
    { c with generations := updateGeneration pair (fun g => { g with running := g.running + 1 }) c.generations }
  | none => { c with generations := c.generations ++ [⟨pair, 0, 1⟩] }

/-- A load of `t.key` no longer runs. A generation without running loads is not kept. -/
def release (c : Cache α) (t : Ticket) : Cache α :=
  let pair := t.key.pair
  { c with
    generations := (updateGeneration pair (fun g => { g with running := g.running - 1 }) c.generations).filter
      fun g => g.pair ≠ pair || g.running ≠ 0 }

/-! ## Lookups and loads -/

/-- The entries with `key` used last. -/
def touch (c : Cache α) (e : CacheEntry α) : Cache α :=
  { c with
    entries := c.entries.filter (·.key ≠ e.key) ++ [{ e with hits := e.hits + 1 }]
    hits := c.hits + 1 }

def begin (c : Cache α) (key : CacheKey) : Ticket × Cache α :=
  let ticket : Ticket := ⟨key, c.nextId, c.generationOf key.pair⟩
  let c := c.hold key.pair
  (ticket, { c with
    misses := c.misses + 1
    nextId := c.nextId + 1
    pending := c.pending ++ [⟨key, ticket.id⟩] })

def lookup (c : Cache α) (key : CacheKey) : Lookup α × Cache α :=
  if c.closed then (.closed, c)
  else
    match c.entry? key with
    | some e => (.hit e.value, c.touch e)
    | none =>
      match c.pending.find? (·.key = key) with
      | some p => (.joined p.id, c)
      | none =>
        let (ticket, c) := c.begin key
        (.began ticket, c)

/-- The load of a ticket is no longer joined. -/
def settle (c : Cache α) (t : Ticket) : Cache α :=
  { c with pending := c.pending.filter fun p => p.key ≠ t.key || p.id ≠ t.id }

/-- Drops the least recently used entries as long as there are too many. -/
def evict (c : Cache α) : Cache α :=
  let excess := c.entries.length - c.capacity
  { c with entries := c.entries.drop excess, evictions := c.evictions + excess }

def insert (c : Cache α) (key : CacheKey) (value : α) : Cache α :=
  match c.entry? key with
  | some _ => { c with entries := c.entries.map fun e => if e.key = key then ⟨key, value, 0⟩ else e }
  | none => evict { c with entries := c.entries ++ [⟨key, value, 0⟩] }

/-- Ends a load and tells whether its value is kept. A load that crashes does not get to this. -/
def finish (c : Cache α) (t : Ticket) : LoadEnd α → Bool × Cache α
  | .crashed => (false, c)
  | .failed => (false, c.settle t)
  | .loaded value =>
    let c := c.settle t
    if c.closed || c.generationOf t.key.pair ≠ t.generation then (false, c) else (true, c.insert t.key value)

/-! ## Invalidation and the end -/

/-- How many entries and running loads an invalidation has dropped. -/
structure Dropped where
  removed : Nat
  abandoned : Nat
deriving DecidableEq, Repr, Inhabited

def invalidate (c : Cache α) (pair : Pair) : Dropped × Cache α :=
  let entries := c.entries.filter (·.key.pair ≠ pair)
  let pending := c.pending.filter (·.key.pair ≠ pair)
  let dropped : Dropped := ⟨c.entries.length - entries.length, c.pending.length - pending.length⟩
  (dropped, { c with
    entries, pending
    generations := updateGeneration pair (fun g => { g with value := g.value + 1 }) c.generations })

/-- An invalidation that has dropped something is counted. -/
def countInvalidation (c : Cache α) : Cache α := { c with invalidations := c.invalidations + 1 }

def countSharedHit (c : Cache α) : Cache α := { c with sharedHits := c.sharedHits + 1 }

def shutdown (c : Cache α) : Cache α := { c with closed := true, entries := [], pending := [] }

end Cache

end StrategyHost
