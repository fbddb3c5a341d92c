import StrategyHost.Proofs.Load
import StrategyHost.Proofs.Snapshot

/-! # What is made of bound parameters

A built-in strategy is built from whatever its schema binds (`Registry.exists_build`), and what it binds comes back from a snapshot
(`Snapshot.isPlain_bound`). Both hold because bound parameters hold a value for every declaration, one that the declaration
admits (`Schema.holdsAll_of_bind`). -/

namespace StrategyHost
variable {s : Schema} {params : Params} {bound : Bound}

/-! ### What is bound -/

/-- There is a value for every declaration, which the declaration admits. -/
def Bound.HoldsAll (b : Bound) (s : Schema) : Prop := ∀ p ∈ s.specs, ∃ v, b.get? p.name = some v ∧ p.kind.Admits v

namespace Schema

theorem admits_of_bindSpecs {specs : List ParamSpec} {values : List (String × ParamValue)}
    (defaults : ∀ p ∈ specs, p.kind.Admits p.kind.defaultValue) (h : bindSpecs params specs = .ok values) :
    ∀ f ∈ values, ∃ p ∈ specs, p.name = f.1 ∧ p.kind.Admits f.2 := by
  induction specs generalizing values with
  | nil =>
    cases h
    exact List.forall_mem_nil _
  | cons p specs ih =>
    obtain ⟨v, rest, first, more, rfl⟩ := bindSpecs_cons.1 h
    obtain ⟨default, defaults⟩ := List.forall_mem_cons.1 defaults
    refine List.forall_mem_cons.2 ⟨⟨p, List.mem_cons_self .., rfl, p.admits_of_bind default first⟩, fun f hf => ?_⟩
    obtain ⟨q, hq, named⟩ := ih defaults more f hf
    exact ⟨q, List.mem_cons_of_mem _ hq, named⟩

theorem admits_of_bind (sound : s.IsSound) (h : s.bind params = .ok bound) :
    ∀ f ∈ bound, ∃ p ∈ s.specs, p.name = f.1 ∧ p.kind.Admits f.2 := by
  obtain ⟨-, values, hvalues, -, rfl⟩ := bind_eq_ok.1 h
  exact fun f hf => admits_of_bindSpecs sound.defaults hvalues f (mem_of_mem_sortFields hf)

theorem holdsAll_of_bind (sound : s.IsSound) (h : s.bind params = .ok bound) : bound.HoldsAll s := by
  obtain ⟨-, values, hvalues, -, rfl⟩ := bind_eq_ok.1 h
  have names := names_of_bindSpecs hvalues
  intro p hp
  obtain ⟨f, hf, named⟩ := List.mem_map.1 (names ▸ List.mem_map_of_mem hp : p.name ∈ values.map (·.1))
  obtain ⟨q, hq, named', admits⟩ := admits_of_bindSpecs sound.defaults hvalues f hf
  obtain rfl : q = p := List.inj_on_of_nodup_map sound.names hq hp (named'.trans named)
  refine ⟨f.2, ?_, admits⟩
  rw [Bound.get?, ← named, find?_sortFields_of_mem (names ▸ sound.names) hf]
  rfl

end Schema

/-! ### Building the built-in strategies -/

def Schema.kind? (s : Schema) (name : String) : Option ParamKind := (s.specs.find? (·.name == name)).map (·.kind)

namespace Bound.HoldsAll
variable {b : Bound}

theorem get? (h : b.HoldsAll s) {name : String} {kind : ParamKind} (declared : s.kind? name = some kind) :
    ∃ v, b.get? name = some v ∧ kind.Admits v := by
  obtain ⟨p, found, rfl⟩ := Option.map_eq_some_iff.1 declared
  obtain rfl : p.name = name := by simpa using List.find?_some found
  exact h p (List.mem_of_find?_eq_some found)

theorem period (h : b.HoldsAll s) (name : String) {min max default : Int}
    (declared : s.kind? name = some (.integer min max default)) (low : 0 ≤ min) : ∃ n, b.period name = .ok n := by
  obtain ⟨v, found, admits⟩ := h.get? declared
  cases v with
  | integer n =>
    have notNegative : ¬ n < 0 := by
      obtain ⟨atLeast, -⟩ := admits
      omega
    refine ⟨n.toNat, bind_eq_ok.2 ⟨n, ?_, if_neg notNegative⟩⟩
    rw [Bound.integer, found]
  | _ => exact admits.elim

theorem decimal (h : b.HoldsAll s) (name : String) {min max default : Decimal}
    (declared : s.kind? name = some (.decimal min max default)) : ∃ d, b.decimal name = .ok d := by
  obtain ⟨v, found, admits⟩ := h.get? declared
  cases v with
  | decimal d => exact ⟨d, by rw [Bound.decimal, found]⟩
  | _ => exact admits.elim

theorem boolean (h : b.HoldsAll s) (name : String) {default : Bool} (declared : s.kind? name = some (.boolean default)) :
    ∃ v, b.boolean name = .ok v := by
  obtain ⟨v, found, admits⟩ := h.get? declared
  cases v with
  | boolean v => exact ⟨v, by rw [Bound.boolean, found]⟩
  | _ => exact admits.elim

end Bound.HoldsAll

namespace Registry
variable {identity : String} {e : Entry}

theorem exists_build_momentum (h : bound.HoldsAll momentumEntry.schema) :
    ∃ strategy, momentumEntry.build bound = .ok strategy := by
  obtain ⟨_, rsiPeriod⟩ := h.period "rsi_period" rfl (by decide)
  obtain ⟨_, fastPeriod⟩ := h.period "ema_fast_period" rfl (by decide)
  obtain ⟨_, slowPeriod⟩ := h.period "ema_slow_period" rfl (by decide)
  obtain ⟨_, overbought⟩ := h.decimal "rsi_overbought" rfl
  obtain ⟨_, oversold⟩ := h.decimal "rsi_oversold" rfl
  obtain ⟨_, positionSize⟩ := h.decimal "base_position_size" rfl
  simp only [momentumEntry, rsiPeriod, fastPeriod, slowPeriod, overbought, oversold, positionSize]
  exact ⟨_, rfl⟩

theorem exists_build_crossover (h : bound.HoldsAll crossoverEntry.schema) :
    ∃ strategy, crossoverEntry.build bound = .ok strategy := by
  obtain ⟨_, fastPeriod⟩ := h.period "fast_period" rfl (by decide)
  obtain ⟨_, slowPeriod⟩ := h.period "slow_period" rfl (by decide)
  obtain ⟨_, positionSize⟩ := h.decimal "position_size" rfl
  simp only [crossoverEntry, fastPeriod, slowPeriod, positionSize]
  exact ⟨_, rfl⟩

theorem exists_build_reversion (h : bound.HoldsAll reversionEntry.schema) :
    ∃ strategy, reversionEntry.build bound = .ok strategy := by
  obtain ⟨_, window⟩ := h.period "window" rfl (by decide)
  obtain ⟨_, entry⟩ := h.decimal "entry_z" rfl
  obtain ⟨_, positionSize⟩ := h.decimal "position_size" rfl
  obtain ⟨_, allowShort⟩ := h.boolean "allow_short" rfl
  simp only [reversionEntry, window, entry, positionSize, allowShort]
  exact ⟨_, rfl⟩

/-- A built-in strategy is built from whatever its schema binds. -/
theorem exists_build (known : builtin.get identity = .ok e) (h : e.schema.bind params = .ok bound) :
    ∃ strategy, builtin.build identity params = .ok (bound, strategy) := by
  have mem := mem_of_get known
  have holds := Schema.holdsAll_of_bind (isSound_builtin e mem) h
  obtain ⟨strategy, built⟩ : ∃ strategy, e.build bound = .ok strategy := by
    simp only [builtin, List.mem_cons, List.not_mem_nil, or_false] at mem
    rcases mem with rfl | rfl | rfl
    · exact exists_build_momentum holds
    · exact exists_build_crossover holds
    · exact exists_build_reversion holds
  exact ⟨strategy, build_eq_ok.2 ⟨e, known, h, built⟩⟩

end Registry

/-! ### Bound parameters as a document -/

/-- Whether a value is a whole number of 64 bits, if it is a number. -/
def ParamValue.IsSmall : ParamValue → Prop
  | integer n => -2 ^ 63 ≤ n ∧ n < 2 ^ 64
  | _ => True

/-- Whether the whole numbers that a kind admits have 64 bits. -/
def ParamKind.IsSmall : ParamKind → Prop
  | integer min _ _ => -2 ^ 63 ≤ min
  | _ => True

instance : (kind : ParamKind) → Decidable kind.IsSmall
  | .integer min _ _ => inferInstanceAs (Decidable (-2 ^ 63 ≤ min))
  | .decimal _ _ _ | .boolean _ | .choice _ _ => instDecidableTrue

theorem ParamKind.IsSmall.value {kind : ParamKind} {v : ParamValue} (small : kind.IsSmall) (admits : kind.Admits v) :
    v.IsSmall := by
  cases kind <;> cases v <;> first | exact admits.elim | trivial | skip
  case integer.integer min max default n =>
    obtain ⟨low, -, high⟩ := admits
    exact ⟨small.trans low, by omega⟩

namespace Bound
variable {b : Bound}

theorem fieldsAreValues_toParams (small : ∀ f ∈ b, f.2.IsSmall) : Json.FieldsAreValues b.toParams := by
  induction b with
  | nil => trivial
  | cons f b ih =>
    obtain ⟨first, rest⟩ := List.forall_mem_cons.1 small
    refine ⟨?_, ih rest⟩
    obtain ⟨name, v⟩ := f
    cases v with
    | integer n => exact first
    | _ => trivial

theorem fieldsAreSorted_toParams (b : Bound) : Json.FieldsAreSorted b.toParams := by
  induction b with
  | nil => trivial
  | cons f b ih =>
    obtain ⟨name, v⟩ := f
    cases v <;> exact ⟨trivial, ih⟩

theorem fieldsDepth_toParams (b : Bound) : Json.fieldsDepth b.toParams = 0 := by
  induction b with
  | nil => rfl
  | cons f b ih =>
    obtain ⟨name, v⟩ := f
    cases v <;> exact (Nat.zero_max _).trans ih

theorem fieldsDoubles_toParams (b : Bound) : Json.fieldsDoubles b.toParams = [] := by
  induction b with
  | nil => rfl
  | cons f b ih =>
    obtain ⟨name, v⟩ := f
    cases v <;> exact ih

end Bound

theorem Registry.isSmall_builtin : ∀ e ∈ builtin, ∀ p ∈ e.schema.specs, p.kind.IsSmall := by decide

/-- What a built-in strategy binds comes back from a snapshot. -/
theorem Snapshot.isPlain_bound {e : Entry} (mem : e ∈ Registry.builtin) (h : e.schema.bind params = .ok bound) {version : ℕ}
    (small : version < 2 ^ 64) (identity contentHash : String) (tier : Tier) :
    (Snapshot.mk identity version contentHash tier bound.toParams (.trusted tier contentHash)).IsPlain where
  version := small
  verdict := ⟨_, _, rfl⟩
  value := Bound.fieldsAreValues_toParams fun f hf => by
    obtain ⟨p, hp, -, admits⟩ := Schema.admits_of_bind (Registry.isSound_builtin e mem) h f hf
    exact (Registry.isSmall_builtin e mem p hp).value admits
  sorted := by
    obtain ⟨-, values, -, -, rfl⟩ := Schema.bind_eq_ok.1 h
    exact ⟨Bound.fieldsAreSorted_toParams _, List.pairwise_map.2 (ascending_sortFields values)⟩
  depth := by
    rw [Json.depth, Bound.fieldsDepth_toParams]
    decide
  doubles := by
    rw [Json.doubles, Bound.fieldsDoubles_toParams]
    exact List.forall_mem_nil _

end StrategyHost
