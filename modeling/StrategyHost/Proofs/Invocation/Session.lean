import StrategyHost.Proofs.Law
import StrategyHost.Strategy.Basic

/-! # What an invocation may do

`Session.law` is the law of an invocation: under its grant it logs only if it may, and the audit events that it causes are those
of a refusal, one of it and as its last step. Built-in strategies keep to it (`Strategy.governs_invoke`), and so do the signals
that they give. -/

namespace StrategyHost

def RunError.denial? : RunError → Option Denial
  | .denied d => some d
  | _ => none

def Halt.denial? : Halt → Option Denial
  | .failed e => e.denial?
  | .overflow => none

def Grant.refusals (g : Grant) (d? : Option Denial) : List Audit.Event := d?.toList.map fun d => g.denialEvent d.capability

structure Session.Obeys (s : Session) (g : Grant) : Prop where
  grant : s.grant = g
  /-- Nothing is logged without permission. -/
  logs : s.logs ≠ [] → g.allows .log = true

/-- The events that a step adds are those of the refusal that it ends with. -/
def Session.law (g : Grant) : Law Session Halt where
  inv s := s.Obeys g
  allows s e? s' := s'.events = s.events ++ g.refusals (e?.bind Halt.denial?)
  refl s := by simp [Grant.refusals]
  trans first next := by simp [next, first, Grant.refusals]

/-- Whether signals and lines are only there if the grant carries what they take. -/
structure Grant.Covers (g : Grant) (set : SignalSet) : Prop where
  logs : set.logs ≠ [] → g.allows .log = true
  signals : set.signals ≠ [] → g.allows .emitSignal = true

theorem Meter.denial?_of_trip? {m : Meter} {e : RunError} (h : m.trip? = some e) : e.denial? = none := by
  unfold trip? at h
  split at h
  · cases h
    rfl
  · split at h <;> cases h
    rfl

namespace Run
variable {α : Type} {g : Grant} {q : α → Prop}
open Law (Governs)

theorem governs_fail {e : RunError} (other : e.denial? = none) : (Session.law g).Governs (fail e : Run α) q :=
  .throw fun s => by simp [Session.law, Halt.denial?, other, Grant.refusals]

theorem governs_overflow : (Session.law g).Governs (throw .overflow : Run α) q :=
  .throw fun s => by simp [Session.law, Halt.denial?, Grant.refusals]

theorem governs_require (c : Capability) : (Session.law g).Governs (require c) fun _ => g.allows c = true := by
  rintro s ⟨rfl, logs⟩
  by_cases granted : s.grant.allows c = true
  · have checked : s.grant.check c = .ok () := if_pos granted
    rw [require, Law.run_get, checked]
    exact .ok ⟨rfl, logs⟩ granted
  · have checked : s.grant.check c = .error (⟨c, s.grant.identity⟩, s.grant.denialEvent c) := if_neg granted
    rw [require, Law.run_get, checked]
    exact .error ⟨rfl, logs⟩ rfl

theorem governs_look : (Session.law g).Governs look fun _ => True :=
  .bind (.change (fun _ h => ⟨h.grant, h.logs⟩) fun _ => by simp [Session.law, Grant.refusals]) fun _ _ =>
    .bind .get fun _ _ => .pure trivial

theorem governs_checkpoint : (Session.law g).Governs checkpoint fun _ => True :=
  .bind governs_look fun m _ => by
    split
    next e tripped => exact governs_fail (Meter.denial?_of_trip? tripped)
    next => exact .pure trivial

theorem governs_log (line : String) : (Session.law g).Governs (log line) fun _ => True :=
  .bind (governs_require .log) fun _ granted =>
    .change (fun _ h => ⟨h.grant, fun _ => granted⟩) fun _ => by simp [Session.law, Grant.refusals]

theorem governs_report {e : StrategyError} (other : e.toRunError.denial? = none) : (Session.law g).Governs (report e : Run α) q :=
  governs_fail other

end Run

def SignalSet.IsSilent (set : SignalSet) : Prop := set.logs = []

namespace Strategy
open Run Law
variable {g : Grant}

theorem governs_momentum (c : Momentum) (data : MarketData) : (Session.law g).Governs (c.signals data) SignalSet.IsSilent := by
  have fold (s : Momentum.State) (candles : List Candle) : (Session.law g).Governs (Momentum.fold s candles) fun _ => True := by
    induction candles generalizing s with
    | nil => exact .pure trivial
    | cons k ks ih => exact .bind governs_checkpoint fun _ _ => ih _
  refine .bind (fold c.start data.candles) fun s _ => ?_
  split
  · rw [Momentum.decide]
    split
    · exact .pure rfl
    · exact .bind (governs_log _) fun _ _ => .pure rfl
  · exact governs_report rfl

theorem governs_crossover (c : Crossover) (data : MarketData) : (Session.law g).Governs (c.signals data) SignalSet.IsSilent := by
  have push (s : Crossover.State) (price : Decimal) : (Session.law g).Governs (s.push price) fun _ => True := by
    unfold Crossover.State.push
    dsimp only
    split
    · split
      · exact .pure trivial
      · exact governs_overflow
    · exact .pure trivial
  have fold (s : Crossover.State) (candles : List Candle) : (Session.law g).Governs (Crossover.fold s candles) fun _ => True := by
    induction candles generalizing s with
    | nil => exact .pure trivial
    | cons k ks ih => exact .bind governs_checkpoint fun _ _ => .bind (push _ _) fun _ _ => ih _
  refine .bind (fold c.start data.candles) fun s _ => ?_
  split
  · split
    · exact .pure rfl
    · exact .pure rfl
  · exact governs_report rfl

theorem governs_reversion (c : Reversion) (data : MarketData) : (Session.law g).Governs (c.signals data) SignalSet.IsSilent := by
  refine .bind governs_checkpoint fun _ _ => ?_
  dsimp only
  split
  · split
    · exact .pure rfl
    · split
      · exact .pure rfl
      · exact .pure rfl
  · exact governs_report rfl

theorem governs_signals (s : Strategy) (data : MarketData) : (Session.law g).Governs (s.signals data) SignalSet.IsSilent := by
  unfold signals
  split
  · exact governs_report rfl
  · cases s with
    | momentum c => exact governs_momentum c data
    | crossover c => exact governs_crossover c data
    | reversion c => exact governs_reversion c data

/-- A built-in strategy keeps to its grant, whatever its parameters, the data and the pace are. -/
theorem governs_invoke (s : Strategy) (data : MarketData) : (Session.law g).Governs (s.invoke data) g.Covers := by
  refine .bind governs_checkpoint fun _ _ => .bind (governs_signals s data) fun set silent => ?_
  have finish (signals : set.signals ≠ [] → g.allows .emitSignal = true) :
      (Session.law g).Governs (do return { set with logs := set.logs ++ (← get).logs } : Run SignalSet) g.Covers :=
    .bind .get fun session obeys => .pure ⟨fun lines => obeys.logs (by simpa [show set.logs = [] from silent] using lines), signals⟩
  split
  · exact .bind (governs_require .emitSignal) fun _ granted => finish fun _ => granted
  · next empty => exact finish fun some => absurd (by simpa using some) empty

end Strategy

end StrategyHost
