import StrategyHost.Failure
import StrategyHost.Descriptor

/-! # The life of a load

A load is requested, validated, and then rejected or accepted; an accepted one is instantiated and may be
cached. A `Tracker` keeps the state of one load and all states before it, and refuses any other step. -/

namespace StrategyHost

inductive LoadState where
  | requested | validating | rejected | accepted | instantiated | cached
deriving DecidableEq, Repr, Inhabited

namespace LoadState

def name : LoadState → String
  | requested => "requested"
  | validating => "validating"
  | rejected => "rejected"
  | accepted => "accepted"
  | instantiated => "instantiated"
  | cached => "cached"

def all : List (String × LoadState) :=
  [("requested", requested), ("validating", validating), ("rejected", rejected), ("accepted", accepted),
   ("instantiated", instantiated), ("cached", cached)]

/-- Nothing follows a terminal state. -/
def isTerminal (s : LoadState) : Bool := s = .rejected || s = .cached

def canAdvance : LoadState → LoadState → Bool
  | requested, validating => true
  | validating, rejected => true
  | validating, accepted => true
  | accepted, instantiated => true
  | instantiated, cached => true
  | _, _ => false

end LoadState

structure Tracker where
  key : CacheKey
  state : LoadState
  history : List LoadState
deriving DecidableEq, Repr, Inhabited

namespace Tracker

def new (key : CacheKey) : Tracker := ⟨key, .requested, [.requested]⟩

def illegal (t : Tracker) (next : LoadState) : LoadError :=
  .internal s!"illegal load transition {t.state.name} -> {next.name} for {t.key.toString}"

def advance (t : Tracker) (next : LoadState) : Except LoadError Tracker :=
  if t.state.canAdvance next then .ok ⟨t.key, next, t.history ++ [next]⟩ else .error (t.illegal next)

/-- The tracker behind a request to move on, whether it is granted or not. -/
def attempt (t : Tracker) (next : LoadState) : Tracker :=
  match t.advance next with
  | .ok t' => t'
  | .error _ => t

/-- Moves to rejection for the reason `e`, which is what is reported unless the step is illegal. -/
def reject (t : Tracker) (e : LoadError) : LoadError × Tracker :=
  match t.advance .rejected with
  | .ok t' => (e, t')
  | .error illegal => (illegal, t)

end Tracker

end StrategyHost
