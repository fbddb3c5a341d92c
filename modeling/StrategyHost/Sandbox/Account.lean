import StrategyHost.Budget

/-! # The memory account of an invocation

The linear memory of a guest and the bytes that the host keeps on its behalf share one budget. Growth that
would exceed it is refused and noted as a breach. -/

namespace StrategyHost

structure MemoryAccount where
  limit : Nat
  linear : Nat
  host : Nat
  peak : Nat
  breach : Option Breach
deriving DecidableEq, Repr, Inhabited

namespace MemoryAccount

def maxTableElements : Nat := 10000

/-- A guest is one instance with at most these many memories and tables. -/
def maxInstances : Nat := 1

def maxMemories : Nat := 1

def maxTables : Nat := 4

def new (limit : Nat) : MemoryAccount := ⟨limit, 0, 0, 0, none⟩

/-- Notes the breach of a total above the limit. -/
def refuse (a : MemoryAccount) (total : Nat) : Breach × MemoryAccount :=
  let b : Breach := ⟨.memory, a.limit, total⟩
  (b, { a with breach := some b })

/-- Accounts for `bytes` more on the host's side. -/
def reserve (a : MemoryAccount) (bytes : Nat) : Except Breach Unit × MemoryAccount :=
  let total := Limits.saturate (Limits.saturate (a.linear + a.host) + bytes)
  if a.limit < total then
    let (b, a) := a.refuse total
    (.error b, a)
  else (.ok (), { a with host := a.host + bytes, peak := max a.peak total })

/-- Accounts for a linear memory of `desired` bytes in place of the present one. -/
def grow (a : MemoryAccount) (desired : Nat) : Except Breach Unit × MemoryAccount :=
  let total := Limits.saturate (desired + a.host)
  if a.limit < total then
    let (b, a) := a.refuse total
    (.error b, a)
  else (.ok (), { a with linear := desired, peak := max a.peak total })

/-- Whether a table may have `desired` elements. -/
def allowsTable (desired : Nat) : Bool := desired ≤ maxTableElements

end MemoryAccount

end StrategyHost
