import Mathlib.Logic.Function.Iterate
import StrategyHost.Proofs.Indicator
import StrategyHost.Proofs.Law
import StrategyHost.Proofs.Periods

/-! # How much data is enough

An invocation that nothing stops from outside (`Session.IsUnhindered`) is up to the strategy. On fewer candles than its warm-up names
a strategy of the host fails for that, and on as many it answers: the work is to carry what the indicators count through the fold over
the candles (`Momentum.governs_fold`, `Crossover.governs_fold`), as the periods fit each other. A spread between two averages that no
decimal can be is the one thing left that may go wrong. Main statement: `Strategy.warmup_exact`. -/

namespace StrategyHost

/-! ### Invocations that nothing stops -/

def Meter.NeverTrips (m : Meter) : Prop := ∀ n, (Meter.next^[n + 1] m).trip? = none

theorem Meter.neverTrips_unbounded : unbounded.NeverTrips := fun n => by
  rw [Function.iterate_fixed rfl]
  rfl

/-- The meter never trips, and the grant carries what strategies of the host take. -/
structure Session.IsUnhindered (s : Session) : Prop where
  meter : s.meter.NeverTrips
  log : s.grant.allows .log = true
  emitSignal : s.grant.allows .emitSignal = true

/-- An invocation that nothing stops may still fail, but only with failures that have the property `p`. -/
def Session.failing (p : Halt → Prop) : Law Session Halt where
  inv := IsUnhindered
  allows _ e? _ := ∀ e, e? = some e → p e
  refl := nofun
  trans _ next := next

namespace Run
variable {α : Type} {p : Halt → Prop} {q : α → Prop}
open Law (Governs)

theorem unhindered_throw {e : Halt} (why : p e) : (Session.failing p).Governs (throw e : Run α) q :=
  .throw fun _ _ same => Option.some.inj same ▸ why

theorem unhindered_require {c : Capability} (granted : ∀ s : Session, s.IsUnhindered → s.grant.allows c = true) :
    (Session.failing p).Governs (require c) fun _ => True := by
  intro s hs
  have checked : s.grant.check c = .ok () := if_pos (granted s hs)
  rw [require, Law.run_get, checked]
  exact .ok hs trivial

theorem unhindered_look : (Session.failing p).Governs look fun m => m.trip? = none := by
  rintro s ⟨meter, log, emitSignal⟩
  refine ⟨⟨fun n => ?_, log, emitSignal⟩, nofun, ?_⟩
  · exact meter (n + 1)
  · rintro _ ⟨⟩
    exact meter 0

theorem unhindered_checkpoint : (Session.failing p).Governs checkpoint fun _ => True :=
  .bind unhindered_look fun m calm => by
    rw [calm]
    exact .pure trivial

theorem unhindered_log (line : String) : (Session.failing p).Governs (log line) fun _ => True :=
  .bind (unhindered_require fun _ h => h.log) fun _ _ => .change (fun _ h => ⟨h.meter, h.log, h.emitSignal⟩) fun _ => nofun

end Run

theorem MarketData.length_closes (data : MarketData) : data.closes.length = data.candles.length := List.length_map ..

/-! ### Momentum -/

namespace Momentum
open Run

theorem State.foldl_push (s : State) (prices : List Decimal) :
    prices.foldl push s = ⟨prices.foldl Rsi.push s.rsi, prices.foldl Ema.push s.fast, prices.foldl Ema.push s.slow⟩ := by
  induction prices generalizing s with
  | nil => rfl
  | cons price prices ih => exact ih (s.push price)

variable {p : Halt → Prop}

theorem governs_fold (s : State) (candles : List Candle) :
    (Session.failing p).Governs (fold s candles) fun s' => s' = (candles.map Candle.close).foldl State.push s := by
  induction candles generalizing s with
  | nil => exact .pure rfl
  | cons k ks ih => exact .bind unhindered_checkpoint fun _ _ => ih (s.push k.close)

theorem governs_signals {c : Momentum} (consistent : (Strategy.momentum c).IsConsistent) {data : MarketData}
    (enough : (Strategy.momentum c).warmup ≤ data.candles.length) :
    (Session.failing p).Governs (c.signals data) fun _ => True := by
  obtain ⟨positive, faster⟩ := consistent
  have counted : max (c.rsiPeriod + 1) c.slowPeriod ≤ data.closes.length := data.length_closes ▸ enough
  obtain ⟨x, rsi⟩ : ∃ x, (data.closes.foldl Rsi.push (.new c.rsiPeriod)).output = some x :=
    Option.isSome_iff_exists.1 (((Rsi.counts_new c.rsiPeriod).foldl data.closes).isSome_output.2 (by omega))
  obtain ⟨y, fast⟩ : ∃ y, (data.closes.foldl Ema.push (.new c.fastPeriod)).output = some y :=
    Option.isSome_iff_exists.1 ((((Ema.counts_new c.fastPeriod).foldl data.closes).isSome_output positive).2 (by omega))
  obtain ⟨z, slow⟩ : ∃ z, (data.closes.foldl Ema.push (.new c.slowPeriod)).output = some z :=
    Option.isSome_iff_exists.1 ((((Ema.counts_new c.slowPeriod).foldl data.closes).isSome_output (by omega)).2 (by omega))
  refine .bind (governs_fold c.start data.candles) fun s folded => ?_
  obtain rfl : s = ⟨_, _, _⟩ := folded.trans (State.foldl_push ..)
  split
  · rw [decide]
    split
    · exact .pure trivial
    · exact .bind (unhindered_log _) fun _ _ => .pure trivial
  next missing => exact (missing x y z rsi fast slow).elim

end Momentum

/-! ### Crossovers -/

namespace Crossover
open Run
variable {c : Crossover} {p : Halt → Prop} {s : State} {seen closes : List Decimal}

/-- Behind the prices `seen` there are two averages, further apart than decimals reach. -/
def IsApart (c : Crossover) (seen : List Decimal) : Prop :=
  ∃ f g, (seen.foldl Sma.push (.new c.fastPeriod)).output = some f ∧ (seen.foldl Sma.push (.new c.slowPeriod)).output = some g ∧
    f.sub? g = none

/-- The averages get so far apart on the way. -/
def Overflows (c : Crossover) (closes : List Decimal) : Prop := ∃ seen, seen <+: closes ∧ c.IsApart seen

theorem Overflows.mono (h : c.Overflows seen) (start : seen <+: closes) : c.Overflows closes := by
  obtain ⟨before, among, apart⟩ := h
  exact ⟨before, among.trans start, apart⟩

theorem not_overflows_concat {price : Decimal} (before : ¬ c.Overflows seen) (last : ¬ c.IsApart (seen ++ [price])) :
    ¬ c.Overflows (seen ++ [price]) := by
  rintro ⟨start, among, apart⟩
  rcases List.prefix_concat_iff.1 among with rfl | among
  · exact last apart
  · exact before ⟨start, among, apart⟩

/-- What is known behind the prices `seen`: a spread there is once the slower average is ready, and one before it a price later. -/
structure Reached (c : Crossover) (seen : List Decimal) (s : State) : Prop where
  fast : s.fast = seen.foldl Sma.push (.new c.fastPeriod)
  slow : s.slow = seen.foldl Sma.push (.new c.slowPeriod)
  current : s.current.isSome = true ↔ c.slowPeriod ≤ seen.length
  previous : s.previous.isSome = true ↔ c.slowPeriod + 1 ≤ seen.length
  inRange : ¬ c.Overflows seen

section
variable (consistent : (Strategy.crossover c).IsConsistent)
include consistent

theorem reached_start : Reached c [] c.start := by
  have faster : c.fastPeriod < c.slowPeriod := consistent
  refine ⟨rfl, rfl, iff_of_false Bool.false_ne_true (by simp; omega), iff_of_false Bool.false_ne_true (by simp), ?_⟩
  rintro ⟨start, among, f, g, -, slow, -⟩
  obtain rfl := List.prefix_nil.1 among
  have ready := (Sma.counts_new c.slowPeriod).isSome_output.1 (slow ▸ rfl)
  omega

theorem governs_push (h : Reached c seen s) (price : Decimal) (apart : c.Overflows (seen ++ [price]) → p .overflow) :
    (Session.failing p).Governs (s.push price) (Reached c (seen ++ [price])) := by
  have faster : c.fastPeriod < c.slowPeriod := consistent
  have length : (seen ++ [price]).length = seen.length + 1 := by simp
  have fast : s.fast.push price = (seen ++ [price]).foldl Sma.push (.new c.fastPeriod) := by rw [h.fast, List.foldl_concat]
  have slow : s.slow.push price = (seen ++ [price]).foldl Sma.push (.new c.slowPeriod) := by rw [h.slow, List.foldl_concat]
  have fastReady := ((Sma.counts_new c.fastPeriod).foldl (seen ++ [price])).isSome_output
  have slowReady := ((Sma.counts_new c.slowPeriod).foldl (seen ++ [price])).isSome_output
  simp only [State.push, fast, slow]
  -- the slower average has the longer period, so that it alone decides whether there is a spread
  split
  next f g hf hg =>
    have ready : c.slowPeriod ≤ (seen ++ [price]).length := slowReady.1 (by rw [hg]; rfl)
    split
    next spread inRange =>
      refine .pure ⟨rfl, rfl, iff_of_true rfl ready, ?_, not_overflows_concat h.inRange ?_⟩
      · rw [h.current, length]
        omega
      · rintro ⟨f', g', hf', hg', apart⟩
        cases hf.symm.trans hf'
        cases hg.symm.trans hg'
        cases inRange.symm.trans apart
    next outOfRange => exact unhindered_throw (apart ⟨_, List.prefix_refl _, f, g, hf, hg, outOfRange⟩)
  next missing =>
    have early : ¬ c.slowPeriod ≤ (seen ++ [price]).length := by
      intro ready
      obtain ⟨f, hf⟩ := Option.isSome_iff_exists.1 (fastReady.2 (by omega))
      obtain ⟨g, hg⟩ := Option.isSome_iff_exists.1 (slowReady.2 ready)
      exact missing f g hf hg
    refine .pure ⟨rfl, rfl, ?_, ?_, not_overflows_concat h.inRange fun ⟨f, g, hf, hg, _⟩ => missing f g hf hg⟩
    · rw [h.current]
      omega
    · rw [h.previous]
      omega

theorem governs_fold (h : Reached c seen s) (candles : List Candle)
    (apart : c.Overflows (seen ++ candles.map Candle.close) → p .overflow) :
    (Session.failing p).Governs (fold s candles) (Reached c (seen ++ candles.map Candle.close)) := by
  induction candles generalizing s seen with
  | nil => exact .pure (by simpa using h)
  | cons k ks ih =>
    -- a price moves on to what was seen, and a spread out of range there is out of range on the way through all prices
    have order : seen ++ (k :: ks).map Candle.close = seen ++ [k.close] ++ ks.map Candle.close := by simp
    rw [order] at apart ⊢
    refine .bind unhindered_checkpoint fun _ _ => .bind (governs_push consistent h k.close fun early => ?_) fun s' h' => ih h' apart
    exact apart (early.mono (List.prefix_append ..))

theorem governs_signals {data : MarketData} (enough : (Strategy.crossover c).warmup ≤ data.candles.length)
    (apart : c.Overflows data.closes → p .overflow) :
    (Session.failing p).Governs (c.signals data) fun _ => ¬ c.Overflows data.closes := by
  have counted : c.slowPeriod + 1 ≤ data.closes.length := data.length_closes ▸ enough
  refine .bind (governs_fold consistent (reached_start consistent) data.candles apart) fun s (h : Reached c data.closes s) => ?_
  obtain ⟨previous, hprevious⟩ := Option.isSome_iff_exists.1 (h.previous.2 counted)
  obtain ⟨current, hcurrent⟩ := Option.isSome_iff_exists.1 (h.current.2 (by omega))
  rw [hprevious, hcurrent]
  dsimp only
  split
  · exact .pure h.inRange
  · exact .pure h.inRange

end

end Crossover

/-! ### Reversion -/

namespace Reversion
open Run
variable {c : Reversion} {p : Halt → Prop}

theorem window_ne_nil (consistent : (Strategy.reversion c).IsConsistent) {closes : List Decimal} (enough : c.window ≤ closes.length) :
    closes.drop (closes.length - c.window) ≠ [] := by
  have positive : 0 < c.window := consistent
  rw [ne_eq, List.drop_eq_nil_iff]
  omega

theorem governs_signals (consistent : (Strategy.reversion c).IsConsistent) {data : MarketData}
    (enough : (Strategy.reversion c).warmup ≤ data.candles.length) :
    (Session.failing p).Governs (c.signals data) fun _ => True := by
  have window := window_ne_nil consistent (data.length_closes ▸ enough : c.window ≤ data.closes.length)
  obtain ⟨mean, statistics⟩ : ∃ mean, meanAndDeviation (data.closes.drop (data.closes.length - c.window)) = some mean :=
    ⟨_, if_neg (by simpa using window)⟩
  refine .bind unhindered_checkpoint fun _ _ => ?_
  simp only [statistics, List.getLast?_eq_some_getLast window]
  split
  · exact .pure trivial
  · split
    · exact .pure trivial
    · exact .pure trivial

end Reversion

/-! ### All strategies -/

theorem StrategyError.message_ne_computation (required available : ℕ) (text : String) :
    (insufficientData required available).message ≠ (computation text).message := by
  intro same
  have texts : (s!"insufficient data: need {required} candles, have {available}").toList = (s!"computation error: {text}").toList :=
    congrArg String.toList same
  simp [toString] at texts

namespace Strategy
open Run
variable {strategy : Strategy} {data : MarketData}

/-- The one thing that may go wrong on enough candles. -/
def Overflows : Strategy → List Decimal → Prop
  | crossover c, closes => c.Overflows closes
  | _, _ => False

inductive FailsWith (strategy : Strategy) (data : MarketData) : Halt → Prop
  | short (few : data.candles.length < strategy.warmup) :
    FailsWith strategy data (.failed (StrategyError.insufficientData strategy.warmup data.candles.length).toRunError)
  | overflow (enough : strategy.warmup ≤ data.candles.length) (apart : strategy.Overflows data.closes) :
    FailsWith strategy data .overflow

theorem unhindered_signals (consistent : strategy.IsConsistent) (data : MarketData) :
    (Session.failing (strategy.FailsWith data)).Governs (strategy.signals data) fun _ =>
      strategy.warmup ≤ data.candles.length ∧ ¬ strategy.Overflows data.closes := by
  unfold signals
  split
  next few => exact unhindered_throw (.short few)
  next many =>
    have enough : strategy.warmup ≤ data.candles.length := not_lt.1 many
    cases strategy with
    | momentum c => exact (Momentum.governs_signals consistent enough).imp fun _ _ => ⟨enough, id⟩
    | crossover c => exact (Crossover.governs_signals consistent enough (.overflow enough)).imp fun _ inRange => ⟨enough, inRange⟩
    | reversion c => exact (Reversion.governs_signals consistent enough).imp fun _ _ => ⟨enough, id⟩

theorem unhindered_invoke (consistent : strategy.IsConsistent) (data : MarketData) :
    (Session.failing (strategy.FailsWith data)).Governs (strategy.invoke data) fun _ =>
      strategy.warmup ≤ data.candles.length ∧ ¬ strategy.Overflows data.closes := by
  refine .bind unhindered_checkpoint fun _ _ => .bind (unhindered_signals consistent data) fun set fine => ?_
  have finish : (Session.failing (strategy.FailsWith data)).Governs
      (do return { set with logs := set.logs ++ (← get).logs } : Run SignalSet) fun _ =>
        strategy.warmup ≤ data.candles.length ∧ ¬ strategy.Overflows data.closes := .bind .get fun _ _ => .pure fine
  split
  · exact .bind (unhindered_require fun _ h => h.emitSignal) fun _ _ => finish
  · exact finish

def HasWindow : Strategy → List Decimal → Prop
  | reversion c, closes => c.window ≤ closes.length ∧ closes.drop (closes.length - c.window) ≠ []
  | _, _ => True

theorem IsConsistent.hasWindow (consistent : strategy.IsConsistent) (enough : strategy.warmup ≤ data.candles.length) :
    strategy.HasWindow data.closes := by
  cases strategy with
  | momentum c => trivial
  | crossover c => trivial
  | reversion c =>
    have fits : c.window ≤ data.closes.length := data.length_closes ▸ enough
    exact ⟨fits, Reversion.window_ne_nil consistent fits⟩

theorem FailsWith.ne_computation {e : Halt} (h : strategy.FailsWith data e) (text : String) :
    e ≠ .failed (StrategyError.computation text).toRunError := by
  intro same
  cases h with
  | short _ =>
    exact StrategyError.message_ne_computation _ _ text (RunError.runtime.inj (Halt.failed.inj same))
  | overflow _ _ => cases same

/-- Of whatever the host builds, the declared warm-up is exactly enough. -/
theorem warmup_exact {identity : String} {params : Params} {entry : Entry} {bound : Bound}
    (known : Registry.builtin.get identity = .ok entry) (binds : entry.schema.bind params = .ok bound) :
    ∃ strategy, Registry.builtin.build identity params = .ok (bound, strategy) ∧
      ∀ (data : MarketData) (s : Session), s.IsUnhindered →
        let result := ((strategy.invoke data).start s).1
        (data.candles.length < strategy.warmup → result =
          .error (.failed (StrategyError.insufficientData strategy.warmup data.candles.length).toRunError)) ∧
        (strategy.warmup ≤ data.candles.length → strategy.HasWindow data.closes ∧
          (strategy.Overflows data.closes → result = .error .overflow) ∧
          (¬ strategy.Overflows data.closes → ∃ set, result = .ok set)) ∧
        ∀ text, result ≠ .error (.failed (StrategyError.computation text).toRunError) := by
  obtain ⟨strategy, built⟩ := Registry.exists_build known binds
  have consistent := Registry.isConsistent_of_build built
  refine ⟨strategy, built, fun data s unhindered => ?_⟩
  intro result
  have ran := unhindered_invoke consistent data s unhindered
  have failed : ∀ e, result = .error e → strategy.FailsWith data e := fun e came => ran.allows e (congrArg failure? came)
  have answered : ∀ set, result = .ok set → strategy.warmup ≤ data.candles.length ∧ ¬ strategy.Overflows data.closes := ran.result
  cases came : result with
  | ok set =>
    obtain ⟨enough, inRange⟩ := answered set came
    exact ⟨fun few => absurd few (not_lt.2 enough),
      fun _ => ⟨consistent.hasWindow enough, fun apart => absurd apart inRange, fun _ => ⟨set, rfl⟩⟩, fun _ => nofun⟩
  | error e =>
    refine ⟨?_, ?_, fun text same => (failed e came).ne_computation text (Except.error.inj same)⟩
    · intro few
      cases failed e came with
      | short _ => rfl
      | overflow enough _ => exact absurd few (not_lt.2 enough)
    · intro enough
      cases failed e came with
      | short few => exact absurd few (not_lt.2 enough)
      | overflow _ apart => exact ⟨consistent.hasWindow enough, fun _ => rfl, fun inRange => absurd apart inRange⟩

/-- With a window of two, one candle is too few and two are enough. -/
theorem warmup_exact_pair :
    let k : Candle := default
    let s : Session := .start { (default : Grant) with allowed := [.log, .emitSignal] } .unbounded
    ∃ bound strategy, Registry.builtin.build "mean_reversion" [("window", .int 2)] = .ok (bound, strategy) ∧
      ((strategy.invoke ⟨"X", [k]⟩).start s).1 = .error (.failed (StrategyError.insufficientData 2 1).toRunError) ∧
      ∃ set, ((strategy.invoke ⟨"X", [k, k]⟩).start s).1 = .ok set := by
  intro k s
  have unhindered : s.IsUnhindered := ⟨Meter.neverTrips_unbounded, by decide, by decide⟩
  obtain ⟨bound, c, shown, window⟩ : ∃ bound c,
      Registry.builtin.build "mean_reversion" [("window", .int 2)] = .ok (bound, reversion c) ∧ c.window = 2 := ⟨_, _, rfl, rfl⟩
  obtain ⟨entry, known, binds, -⟩ := Registry.build_eq_ok.1 shown
  obtain ⟨strategy, built, results⟩ := warmup_exact known binds
  cases shown.symm.trans built
  obtain ⟨short, -⟩ := results ⟨"X", [k]⟩ s unhindered
  obtain ⟨-, enough, -⟩ := results ⟨"X", [k, k]⟩ s unhindered
  have warmup : (reversion c).warmup = 2 := window
  rw [warmup] at short enough
  obtain ⟨-, -, answered⟩ := enough (by decide)
  exact ⟨bound, _, shown, short (by decide), answered id⟩

end Strategy

end StrategyHost
