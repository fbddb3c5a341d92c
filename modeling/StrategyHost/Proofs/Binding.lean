import Mathlib.Data.Rat.Cast.Order
import Mathlib.Data.String.Basic
import StrategyHost.Proofs.Schema
import StrategyHost.Strategy.Registry

/-! # What a schema accepts

What a declaration takes from foreign parameters (`ParamSpec.Gives`), when parameters are acceptable (`Schema.Accepts`), and
which name is to blame if they are not (`Schema.Blames`). Main statement: `Schema.bind_decides`, a schema binds just the
parameters that are acceptable, to the values that they give, and refuses all others under the name that is to blame. -/

namespace StrategyHost

/-! ### Numbers -/

namespace Decimal

def value (d : Decimal) : ℚ := d.numerator / 10 ^ d.scale

theorem lt_iff {a b : Decimal} : a.lt b = true ↔ a.value < b.value := by
  have ha : (0 : ℚ) < 10 ^ a.scale := by positivity
  have hb : (0 : ℚ) < 10 ^ b.scale := by positivity
  rw [value, value, div_lt_div_iff₀ ha hb, lt, decide_eq_true_iff]
  exact_mod_cast Iff.rfl

theorem le_iff {a b : Decimal} : a.le b = true ↔ a.value ≤ b.value := by
  have ha : (0 : ℚ) < 10 ^ a.scale := by positivity
  have hb : (0 : ℚ) < 10 ^ b.scale := by positivity
  rw [value, value, div_le_div_iff₀ ha hb, le, decide_eq_true_iff]
  exact_mod_cast Iff.rfl

theorem value_ofInt {n : ℤ} (fits : n.natAbs < 2 ^ 96) : (ofInt n).value = n := by
  have parts : ofParts? (decide (n < 0)) n.natAbs 0 = some ⟨decide (n < 0) && n.natAbs != 0, n.natAbs, 0, fits, by decide⟩ :=
    dif_pos ⟨fits, by decide⟩
  have numerator : (ofInt n).numerator = n := by
    rw [ofInt, parts, Option.getD_some]
    simp only [Decimal.numerator, Bool.and_eq_true, decide_eq_true_iff, bne_iff_ne]
    split_ifs with below <;> omega
  have scale : (ofInt n).scale = 0 := by rw [ofInt, parts, Option.getD_some]
  rw [value, numerator, scale, pow_zero, div_one]

end Decimal

def ParamValue.number? : ParamValue → Option ℚ
  | integer n => some n
  | decimal d => some d.value
  | _ => none

def ParamKind.IsInt64 : ParamKind → Prop
  | integer min max default => ∀ n ∈ [min, max, default], -2 ^ 63 ≤ n ∧ n < 2 ^ 63
  | _ => True

instance : (kind : ParamKind) → Decidable kind.IsInt64
  | .integer min max default => inferInstanceAs (Decidable (∀ n ∈ [min, max, default], -2 ^ 63 ≤ n ∧ n < 2 ^ 63))
  | .decimal _ _ _ | .boolean _ | .choice _ _ => instDecidableTrue

def ParamValue.IsInt64 : ParamValue → Prop
  | integer n => -2 ^ 63 ≤ n ∧ n < 2 ^ 63
  | _ => True

theorem ParamValue.map_asDecimal? {v : ParamValue} (small : v.IsInt64) : v.asDecimal?.map Decimal.value = v.number? := by
  cases v with
  | integer n =>
    obtain ⟨low, high⟩ := small
    exact congrArg some (Decimal.value_ofInt (by omega))
  | _ => rfl

/-! ### What is read and what is given -/

/-- The raw values that fit a kind, and what they stand for. -/
inductive ParamKind.Reads : ParamKind → Json → ParamValue → Prop
  | integer {min max default n : ℤ} (low : -2 ^ 63 ≤ n) (high : n < 2 ^ 63) (least : min ≤ n) (most : n ≤ max) :
      Reads (.integer min max default) (.int n) (.integer n)
  | decimal {min max default d : Decimal} {raw : Json} (readable : ParamKind.readDecimal? raw = some d)
      (least : min.value ≤ d.value) (most : d.value ≤ max.value) : Reads (.decimal min max default) raw (.decimal d)
  | boolean {default b : Bool} : Reads (.boolean default) (.bool b) (.boolean b)
  | choice {options : List String} {default s : String} (option : s ∈ options) :
      Reads (.choice options default) (.str s) (.choice s)

namespace ParamKind
variable {kind : ParamKind} {raw : Json} {v : ParamValue}

theorem read_eq_ok (small : kind.IsInt64) : kind.read raw = .ok v ↔ kind.Reads raw v := by
  cases kind with
  | integer min max default =>
    have low := (small min (by simp)).1
    constructor
    · intro h
      cases raw <;> simp only [read] at h <;> try cases h
      split_ifs at h with large range
      cases h
      exact .integer (by omega) (by omega) (by omega) (by omega)
    · rintro ⟨⟩
      simp only [read]
      rw [if_neg (by omega), if_neg (by omega)]
  | decimal min max default =>
    -- the order of decimals is decided by two comparisons, each for the opposite of a bound
    have inside (d : Decimal) : (d.lt min || max.lt d) = false ↔ min.value ≤ d.value ∧ d.value ≤ max.value := by
      rw [Bool.or_eq_false_iff, Bool.eq_false_iff, Bool.eq_false_iff, ne_eq, ne_eq, Decimal.lt_iff, Decimal.lt_iff, not_lt, not_lt]
    constructor
    · intro h
      simp only [read] at h
      cases hd : readDecimal? raw with
      | none => simp [hd] at h
      | some d =>
        simp only [hd] at h
        split_ifs at h with range
        cases h
        obtain ⟨least, most⟩ := (inside d).1 (Bool.eq_false_iff.2 range)
        exact .decimal hd least most
    · rintro ⟨⟩
      rename_i d least most hd
      simp only [read, hd, (inside d).2 ⟨least, most⟩]
      rfl
  | boolean default =>
    constructor
    · intro h
      cases raw <;> simp only [read] at h <;> cases h
      exact .boolean
    · rintro ⟨⟩
      rfl
  | choice options default =>
    constructor
    · intro h
      cases raw <;> simp only [read] at h <;> try cases h
      split_ifs at h with known
      cases h
      exact .choice (List.contains_iff_mem.1 known)
    · rintro ⟨⟩
      rename_i s option
      exact if_pos (List.contains_iff_mem.2 option)

theorem Reads.isInt64 (h : kind.Reads raw v) : v.IsInt64 := by
  cases h with
  | integer low high least most => exact ⟨low, high⟩
  | _ => trivial

end ParamKind

theorem ParamKind.IsInt64.defaultValue {kind : ParamKind} (small : kind.IsInt64) : kind.defaultValue.IsInt64 := by
  cases kind with
  | integer min max default => exact small default (by simp)
  | _ => trivial

section Params
variable {params : Params} {name : String} {raw : Json} (ascending : params.Pairwise fun f g => f.1 < g.1)

theorem Params.mem_of_get? (h : params.get? name = some raw) : (name, raw) ∈ params := by
  obtain ⟨f, found, rfl⟩ := Option.map_eq_some_iff.1 h
  obtain rfl : f.1 = name := by simpa using List.find?_some found
  exact List.mem_of_find?_eq_some found

include ascending

theorem Params.get?_of_mem (h : (name, raw) ∈ params) : params.get? name = some raw := by
  have distinct : (params.map (·.1)).Nodup := List.pairwise_map.2 (ascending.imp fun h => h.ne)
  have found := find?_sortFields_of_mem distinct h
  rw [sortFields_of_ascending ascending] at found
  rw [Params.get?, found, Option.map_some]

end Params

namespace ParamSpec
variable {p : ParamSpec} {params : Params} {v w : ParamValue}

/-- The value that parameters give to a declaration: the supplied one if it fits, and the default if none is supplied. -/
inductive Gives (p : ParamSpec) (params : Params) : ParamValue → Prop
  | supplied {raw : Json} {v : ParamValue} (supplied : (p.name, raw) ∈ params) (fits : p.kind.Reads raw v) : p.Gives params v
  | absent (absent : ∀ raw, (p.name, raw) ∉ params) : p.Gives params p.kind.defaultValue

/-- What is supplied for a declaration does not fit it. -/
def Refuses (p : ParamSpec) (params : Params) : Prop := ∃ raw, (p.name, raw) ∈ params ∧ ∀ v, ¬ p.kind.Reads raw v

def value (p : ParamSpec) (params : Params) : ParamValue := (p.bind (params.get? p.name)).toOption.getD default

theorem Gives.isInt64 (small : p.kind.IsInt64) (h : p.Gives params v) : v.IsInt64 := by
  cases h with
  | supplied supplied fits => exact fits.isInt64
  | absent absent => exact small.defaultValue

section
variable (ascending : params.Pairwise fun f g => f.1 < g.1) (small : p.kind.IsInt64)
include ascending small

theorem bind_eq_ok : p.bind (params.get? p.name) = .ok v ↔ p.Gives params v := by
  constructor
  · intro h
    cases found : params.get? p.name with
    | none =>
      rw [found] at h
      cases h
      refine .absent fun raw hraw => ?_
      rw [Params.get?_of_mem ascending hraw] at found
      cases found
    | some raw =>
      rw [found] at h
      exact .supplied (Params.mem_of_get? found) ((ParamKind.read_eq_ok small).1 (mapError_eq_ok.1 h))
  · intro h
    cases h with
    | supplied supplied fits =>
      rw [Params.get?_of_mem ascending supplied]
      exact mapError_eq_ok.2 ((ParamKind.read_eq_ok small).2 fits)
    | absent absent =>
      cases found : params.get? p.name with
      | none => rfl
      | some raw => exact absurd (Params.mem_of_get? found) (absent raw)

omit ascending in
theorem refuses_of_bind {e : LoadError} (h : p.bind (params.get? p.name) = .error e) :
    p.Refuses params ∧ ∃ reason, e = .invalidParameter p.name reason := by
  cases found : params.get? p.name with
  | none => rw [found] at h; cases h
  | some raw =>
    rw [found] at h
    obtain ⟨reason, refused, rfl⟩ := mapError_eq_error.1 h
    refine ⟨⟨raw, Params.mem_of_get? found, fun v reads => ?_⟩, reason, rfl⟩
    rw [(ParamKind.read_eq_ok small).2 reads] at refused
    cases refused

theorem not_refuses_iff : ¬ p.Refuses params ↔ ∃ v, p.Gives params v := by
  constructor
  · intro fits
    cases bound : p.bind (params.get? p.name) with
    | error e => exact absurd (refuses_of_bind small bound).1 fits
    | ok v => exact ⟨v, (bind_eq_ok ascending small).1 bound⟩
  · rintro ⟨v, h⟩ ⟨raw, hraw, misfit⟩
    cases h with
    | absent absent => exact absent raw hraw
    | supplied supplied fits =>
      have same := (Params.get?_of_mem ascending supplied).symm.trans (Params.get?_of_mem ascending hraw)
      cases same
      exact misfit v fits

end

end ParamSpec

/-! ### Schemas -/

/-- The last declaration of a name, which is the one that counts. -/
def Schema.last? (s : Schema) (name : String) : Option ParamSpec := s.specs.reverse.find? (·.name == name)

/-- The value that parameters give to a name. -/
def Schema.Gives (s : Schema) (params : Params) (name : String) (v : ParamValue) : Prop :=
  ∃ p, s.last? name = some p ∧ p.Gives params v

def Schema.IsUnknown (s : Schema) (name : String) : Prop := ∀ p ∈ s.specs, p.name ≠ name

/-- If both sides of a rule are numbers, the lower one is less than the upper one. -/
def LessThan.IsKept (r : LessThan) (s : Schema) (params : Params) : Prop :=
  ∀ low high x y, s.Gives params r.lower low → s.Gives params r.upper high → low.number? = some x → high.number? = some y → x < y

theorem LessThan.lower_of_violation? {r : LessThan} {b : Bound} {e : LoadError} (h : r.violation? b = some e) :
    ∃ reason, e = .invalidParameter r.lower reason := by
  unfold violation? at h
  split at h
  · split_ifs at h
    exact ⟨_, (Option.some.inj h).symm⟩
  · cases h

/-- Parameters that a schema has to accept. -/
structure Schema.Accepts (s : Schema) (params : Params) : Prop where
  known : ∀ f ∈ params, ¬ s.IsUnknown f.1
  fits : ∀ p ∈ s.specs, ∀ raw, (p.name, raw) ∈ params → ∃ v, p.kind.Reads raw v
  rules : ∀ r ∈ s.rules, r.IsKept s params

/-- The name to blame for parameters that are not accepted: the least unknown one, or else that of the first declaration that
refuses what is supplied for it, or else the lower one of the first rule that is not kept. -/
inductive Schema.Blames (s : Schema) (params : Params) : String → Prop
  | unknown {f : String × Json} (supplied : f ∈ params) (unknown : s.IsUnknown f.1)
      (least : ∀ g ∈ params, s.IsUnknown g.1 → f.1 ≤ g.1) : s.Blames params f.1
  | refused {before after : List ParamSpec} {p : ParamSpec} (known : ∀ f ∈ params, ¬ s.IsUnknown f.1)
      (declared : s.specs = before ++ p :: after) (refused : p.Refuses params) (first : ∀ q ∈ before, ¬ q.Refuses params) :
      s.Blames params p.name
  | broken {before after : List LessThan} {r : LessThan} (known : ∀ f ∈ params, ¬ s.IsUnknown f.1)
      (fits : ∀ p ∈ s.specs, ¬ p.Refuses params) (declared : s.rules = before ++ r :: after) (broken : ¬ r.IsKept s params)
      (first : ∀ q ∈ before, q.IsKept s params) : s.Blames params r.lower

namespace Schema
variable {s : Schema} {params : Params} {specs : List ParamSpec} {values : List (String × ParamValue)} {name : String}
  {v : ParamValue} {bound : Bound} {e : LoadError}

theorem unknown?_eq_none_iff : s.unknown? params = none ↔ ∀ f ∈ params, ¬ s.IsUnknown f.1 := by
  rw [unknown?_eq_none]
  simp only [IsUnknown, List.mem_map, not_forall, not_not, exists_prop]

section
variable (ascending : params.Pairwise fun f g => f.1 < g.1)
include ascending

theorem blames_of_unknown? (h : s.unknown? params = some name) : s.Blames params name := by
  obtain ⟨f, found, rfl⟩ := Option.map_eq_some_iff.1 h
  obtain ⟨undeclared, before, after, rfl, declared⟩ := List.find?_eq_some_iff_append.1 found
  have unknown (g : String × Json) : (!s.specs.any (·.name == g.1)) = true ↔ s.IsUnknown g.1 := by
    simp [IsUnknown]
  refine .unknown (by simp) ((unknown f).1 undeclared) fun g hg other => ?_
  rcases List.mem_append.1 hg with hg | hg
  · have known : (!!s.specs.any (·.name == g.1)) = true := declared g hg
    rw [(unknown g).2 other] at known
    cases known
  rcases List.mem_cons.1 hg with rfl | hg
  · exact le_refl _
  · obtain ⟨-, rest, -⟩ := List.pairwise_append.1 ascending
    exact (List.rel_of_pairwise_cons rest hg).le

theorem given_of_bindSpecs (small : ∀ p ∈ specs, p.kind.IsInt64) (h : bindSpecs params specs = .ok values) :
    values = specs.map (fun p => (p.name, p.value params)) ∧ ∀ p ∈ specs, ∀ v, p.Gives params v ↔ p.value params = v := by
  induction specs generalizing values with
  | nil => cases h; exact ⟨rfl, List.forall_mem_nil _⟩
  | cons p specs ih =>
    obtain ⟨first, rest⟩ := List.forall_mem_cons.1 small
    obtain ⟨v, vs, bound, more, rfl⟩ := bindSpecs_cons.1 h
    obtain ⟨rfl, given⟩ := ih rest more
    have value : p.value params = v := by rw [ParamSpec.value, bound]; rfl
    refine ⟨by rw [List.map_cons, value], List.forall_mem_cons.2 ⟨fun w => ?_, given⟩⟩
    rw [← ParamSpec.bind_eq_ok ascending first, bound, value, Except.ok.injEq]

theorem blame_of_bindSpecs (small : ∀ p ∈ specs, p.kind.IsInt64) (h : bindSpecs params specs = .error e) :
    ∃ before p after reason, specs = before ++ p :: after ∧ e = .invalidParameter p.name reason ∧ p.Refuses params ∧
      ∀ q ∈ before, ¬ q.Refuses params := by
  induction specs with
  | nil => cases h
  | cons p specs ih =>
    obtain ⟨first, rest⟩ := List.forall_mem_cons.1 small
    rw [bindSpecs] at h
    rcases StrategyHost.bind_eq_error.1 h with refused | ⟨v, bound, h⟩
    · obtain ⟨refuses, reason, rfl⟩ := ParamSpec.refuses_of_bind first refused
      exact ⟨[], p, specs, reason, rfl, rfl, refuses, List.forall_mem_nil _⟩
    rcases StrategyHost.bind_eq_error.1 h with refused | ⟨vs, -, done⟩
    · obtain ⟨before, q, after, reason, rfl, blamed, refuses, fit⟩ := ih rest refused
      have fits : ¬ p.Refuses params :=
        (ParamSpec.not_refuses_iff ascending first).2 ⟨v, (ParamSpec.bind_eq_ok ascending first).1 bound⟩
      exact ⟨p :: before, q, after, reason, rfl, blamed, refuses, List.forall_mem_cons.2 ⟨fits, fit⟩⟩
    · cases done

theorem not_refuses_of_bindSpecs (small : ∀ p ∈ specs, p.kind.IsInt64) (h : bindSpecs params specs = .ok values) :
    ∀ p ∈ specs, ¬ p.Refuses params := by
  obtain ⟨-, given⟩ := given_of_bindSpecs ascending small h
  exact fun p hp => (ParamSpec.not_refuses_iff ascending (small p hp)).2 ⟨p.value params, (given p hp _).2 rfl⟩

theorem get?_sortFields (small : ∀ p ∈ s.specs, p.kind.IsInt64) (h : bindSpecs params s.specs = .ok values) :
    Bound.get? (sortFields values) name = some v ↔ s.Gives params name v := by
  obtain ⟨rfl, given⟩ := given_of_bindSpecs ascending small h
  rw [Bound.get?, find?_sortFields, ← List.map_reverse, List.find?_map, Option.map_map, Option.map_eq_some_iff, Gives]
  refine exists_congr fun p => and_congr_right fun found => ?_
  exact (given p (List.mem_reverse.1 (List.mem_of_find?_eq_some found)) v).symm

omit ascending in
theorem Gives.isInt64 (small : ∀ p ∈ s.specs, p.kind.IsInt64) (h : s.Gives params name v) : v.IsInt64 := by
  obtain ⟨p, found, given⟩ := h
  exact given.isInt64 (small p (List.mem_reverse.1 (List.mem_of_find?_eq_some found)))

theorem violation?_eq_none (small : ∀ p ∈ s.specs, p.kind.IsInt64) (h : bindSpecs params s.specs = .ok values) {r : LessThan} :
    r.violation? (sortFields values) = none ↔ r.IsKept s params := by
  have number (name : String) (x : ℚ) :
      (∃ d, (Bound.get? (sortFields values) name).bind ParamValue.asDecimal? = some d ∧ d.value = x) ↔
        ∃ v, s.Gives params name v ∧ v.number? = some x := by
    simp only [← get?_sortFields ascending small h, Option.bind_eq_some_iff]
    constructor
    · rintro ⟨d, ⟨v, found, numeric⟩, rfl⟩
      have := ((get?_sortFields ascending small h).1 found).isInt64 small
      exact ⟨v, found, by rw [← ParamValue.map_asDecimal? this, numeric, Option.map_some]⟩
    · rintro ⟨v, found, numeric⟩
      have := ((get?_sortFields ascending small h).1 found).isInt64 small
      rw [← ParamValue.map_asDecimal? this] at numeric
      obtain ⟨d, decimal, rfl⟩ := Option.map_eq_some_iff.1 numeric
      exact ⟨d, ⟨v, found, decimal⟩, rfl⟩
  have kept : r.IsKept s params ↔ ∀ x y, (∃ v, s.Gives params r.lower v ∧ v.number? = some x) →
      (∃ v, s.Gives params r.upper v ∧ v.number? = some y) → x < y := by
    constructor
    · rintro kept x y ⟨low, hlow, hx⟩ ⟨high, hhigh, hy⟩
      exact kept low high x y hlow hhigh hx hy
    · intro kept low high x y hlow hhigh hx hy
      exact kept x y ⟨low, hlow, hx⟩ ⟨high, hhigh, hy⟩
  rw [kept]
  simp only [← number]
  unfold LessThan.violation?
  split
  · rename_i low high hlow hhigh
    rw [hlow, hhigh]
    simp only [Option.some.injEq, exists_eq_left']
    split_ifs with order
    · simpa using Decimal.le_iff.1 order
    · simpa using lt_of_not_ge (mt Decimal.le_iff.2 order)
  · rename_i missing
    refine ⟨fun _ x y hx hy => ?_, fun _ => rfl⟩
    obtain ⟨low, hlow, -⟩ := hx
    obtain ⟨high, hhigh, -⟩ := hy
    exact absurd hhigh (missing low high hlow)

theorem blame_of_rules (small : ∀ p ∈ s.specs, p.kind.IsInt64) (h : bindSpecs params s.specs = .ok values)
    (broken : s.rules.findSome? (·.violation? (sortFields values)) = some e) :
    ∃ before r after reason, s.rules = before ++ r :: after ∧ e = .invalidParameter r.lower reason ∧
      ¬ r.IsKept s params ∧ ∀ q ∈ before, q.IsKept s params := by
  obtain ⟨before, r, after, declared, violated, kept⟩ := List.findSome?_eq_some_iff.1 broken
  obtain ⟨reason, rfl⟩ := LessThan.lower_of_violation? violated
  refine ⟨before, r, after, reason, declared, rfl, fun keeps => ?_, fun q hq => ?_⟩
  · rw [(violation?_eq_none ascending small h).2 keeps] at violated
    cases violated
  · exact (violation?_eq_none ascending small h).1 (kept q hq)

theorem blames_of_bind (small : ∀ p ∈ s.specs, p.kind.IsInt64) (h : s.bind params = .error e) :
    ∃ name reason, e = .invalidParameter name reason ∧ s.Blames params name := by
  rw [bind] at h
  cases unknown : s.unknown? params with
  | some key =>
    rw [unknown] at h
    cases h
    exact ⟨key, _, rfl, blames_of_unknown? ascending unknown⟩
  | none =>
    have known := unknown?_eq_none_iff.1 unknown
    rw [unknown] at h
    rcases StrategyHost.bind_eq_error.1 h with refused | ⟨values, bound, h⟩
    · obtain ⟨before, p, after, reason, declared, rfl, refuses, fit⟩ := blame_of_bindSpecs ascending small refused
      exact ⟨p.name, reason, rfl, .refused known declared refuses fit⟩
    · have fits := not_refuses_of_bindSpecs ascending small bound
      cases violated : s.rules.findSome? (·.violation? (sortFields values)) with
      | none => simp only [violated] at h; cases h
      | some e =>
        simp only [violated] at h
        cases h
        obtain ⟨before, r, after, reason, declared, rfl, broken, kept⟩ := blame_of_rules ascending small bound violated
        exact ⟨r.lower, reason, rfl, .broken known fits declared broken kept⟩

theorem accepts_of_bind (small : ∀ p ∈ s.specs, p.kind.IsInt64) (h : s.bind params = .ok bound) : s.Accepts params := by
  obtain ⟨unknown, values, hvalues, kept, rfl⟩ := bind_eq_ok.1 h
  have fits := not_refuses_of_bindSpecs ascending small hvalues
  refine ⟨unknown?_eq_none_iff.1 unknown, fun p hp raw hraw => ?_, fun r hr => ?_⟩
  · by_contra misfit
    exact fits p hp ⟨raw, hraw, not_exists.1 misfit⟩
  · exact (violation?_eq_none ascending small hvalues).1 (List.findSome?_eq_none_iff.1 kept r hr)

omit ascending in
theorem Accepts.not_blames (accepted : s.Accepts params) : ¬ s.Blames params name := by
  have fits (p : ParamSpec) (hp : p ∈ s.specs) : ¬ p.Refuses params := by
    rintro ⟨raw, hraw, misfit⟩
    obtain ⟨v, reads⟩ := accepted.fits p hp raw hraw
    exact misfit v reads
  intro blamed
  cases blamed with
  | unknown supplied unknown least => exact accepted.known _ supplied unknown
  | refused known declared refused first => exact fits _ (declared ▸ by simp) refused
  | broken known fits declared broken first => exact broken (accepted.rules _ (declared ▸ by simp))

end

/-- A schema binds the parameters that are acceptable, and no others, to the values that they give. Others are refused under the
name that is to blame. -/
theorem bind_decides (s : Schema) (params : Params) (ascending : params.Pairwise fun f g => f.1 < g.1)
    (small : ∀ p ∈ s.specs, p.kind.IsInt64) :
    ((∃ bound, s.bind params = .ok bound) ↔ s.Accepts params) ∧
      (∀ bound, s.bind params = .ok bound → ∀ name v, bound.get? name = some v ↔ s.Gives params name v) ∧
      ∀ e, s.bind params = .error e → ∃ name reason, e = .invalidParameter name reason ∧ s.Blames params name := by
  refine ⟨⟨?_, fun accepted => ?_⟩, fun bound h name v => ?_, fun e h => blames_of_bind ascending small h⟩
  · rintro ⟨bound, h⟩
    exact accepts_of_bind ascending small h
  · cases h : s.bind params with
    | ok bound => exact ⟨bound, rfl⟩
    | error e =>
      obtain ⟨name, reason, -, blamed⟩ := blames_of_bind ascending small h
      exact absurd blamed accepted.not_blames
  · obtain ⟨-, values, hvalues, -, rfl⟩ := bind_eq_ok.1 h
    exact get?_sortFields ascending small hvalues

/-- Two thresholds that a pair of spellings makes equal: both fit, and the rule between them is not kept. -/
theorem bind_decides_equal_thresholds :
    let s := momentumEntry.schema
    let params : Params := [("rsi_overbought", .int 50), ("rsi_oversold", .str "50.0")]
    ¬ s.Accepts params ∧ ∃ reason, s.bind params = .error (.invalidParameter "rsi_oversold" reason) := by
  intro s params
  have ascending : params.Pairwise fun f g => f.1 < g.1 := by decide +kernel
  have small : ∀ p ∈ s.specs, p.kind.IsInt64 := by decide
  obtain ⟨accepts, -, -⟩ := bind_decides s params ascending small
  have refused : ∃ reason, s.bind params = .error (.invalidParameter "rsi_oversold" reason) := ⟨_, by rfl⟩
  refine ⟨fun accepted => ?_, refused⟩
  obtain ⟨bound, h⟩ := accepts.2 accepted
  obtain ⟨reason, refused⟩ := refused
  rw [refused] at h
  cases h

end Schema

end StrategyHost
