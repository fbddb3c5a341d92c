import StrategyHost.Sandbox.Guest
import StrategyHost.Strategy.Registry

/-! # What can be run

A `Runnable` is a strategy behind one interface, whether it is part of the host or a guest. -/

namespace StrategyHost

inductive Runnable where
  | native (s : Strategy)
  | guest (name : String) (g : Guest)

namespace Runnable

def name : Runnable → String
  | native s => s.name
  | guest name _ => name

def requested : Runnable → Capabilities
  | native _ => Strategy.requested
  | guest _ g => g.requested

def invoke (limits : Limits) (data : MarketData) : Runnable → Run SignalSet
  | native s => s.invoke data
  | guest _ g => g.invoke limits data

end Runnable

end StrategyHost
