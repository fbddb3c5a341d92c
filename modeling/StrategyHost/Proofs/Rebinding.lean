import Mathlib.Data.List.Forall2
import StrategyHost.Proofs.Binding

/-!
# Binding what was bound

A snapshot keeps bound parameters in their untyped form (`Bound.toParams`), and whoever restores it binds them again. The second
binding reads every value back (`Schema.bind_reread`), so it can only lose the sign of a zero, which a default may have and a text
that is read has not. Main statement: `Schema.bind_bound`, what a schema has bound it binds again, and to equal values.
-/

namespace StrategyHost

/-! ### Ranges -/

/-- The values in the range of a kind, or among its options. -/
def ParamKind.Contains : ParamKind → ParamValue → Prop
  | integer min max _, .integer n => min ≤ n ∧ n ≤ max
  | decimal min max _, .decimal d => min.value ≤ d.value ∧ d.value ≤ max.value
  | boolean _, .boolean _ => True
  | choice options _, .choice s => s ∈ options
  | _, _ => False

theorem Decimal.value_unsigned (d : Decimal) : d.unsigned.value = d.value := by
  rw [value, value, numerator_unsigned]
  rfl

theorem ParamKind.Contains.admits_reread {kind : ParamKind} {v : ParamValue} (h : kind.Contains v) (small : v.IsInt64) :
    kind.Admits v.reread := by
  cases kind with
  | integer min max _ =>
    cases v with
    | integer n => exact ⟨h.1, h.2, small.2⟩
    | _ => exact h.elim
  | decimal min max _ =>
    cases v with
    | decimal d =>
      obtain ⟨least, most⟩ := h
      rw [← d.value_unsigned] at least most
      have notBelow : d.unsigned.lt min = false := Bool.eq_false_iff.2 fun below => least.not_gt (Decimal.lt_iff.1 below)
      have notAbove : max.lt d.unsigned = false := Bool.eq_false_iff.2 fun above => most.not_gt (Decimal.lt_iff.1 above)
      exact ⟨notBelow, notAbove, Decimal.isNormal_unsigned⟩
    | _ => exact h.elim
  | boolean _ =>
    cases v with
    | boolean b => trivial
    | _ => exact h.elim
  | choice options _ =>
    cases v with
    | choice s => exact List.contains_iff_mem.2 h
    | _ => exact h.elim

/-! ### Equal parameters -/

/-- Decimals are equal if they are one number, whatever the number of their places. -/
def ParamValue.Equals : ParamValue → ParamValue → Prop
  | decimal a, decimal b => a.value = b.value
  | v, w => v = w

def Bound.Equals (a b : Bound) : Prop := List.Forall₂ (fun f g => f.1 = g.1 ∧ f.2.Equals g.2) a b

theorem ParamValue.equals_reread (v : ParamValue) : v.reread.Equals v := by
  cases v with
  | decimal d => exact d.value_unsigned
  | _ => rfl

theorem Bound.equals_reread (b : Bound) : b.reread.Equals b := by
  rw [Equals, reread, List.forall₂_map_left_iff, List.forall₂_same]
  exact fun f _ => ⟨rfl, f.2.equals_reread⟩

/-! ### The main statement -/

namespace Schema
variable {s : Schema} {params : Params} {bound : Bound}

/-- What a schema has bound it binds again from the untyped form, to equal values and from then on to the same. They are the same at
once if every default is read back from its text. -/
theorem bind_bound (distinct : (s.specs.map (·.name)).Nodup) (small : ∀ p ∈ s.specs, p.kind.IsInt64)
    (defaults : ∀ p ∈ s.specs, p.kind.Contains p.kind.defaultValue) (h : s.bind params = .ok bound) :
    ∃ again, s.bind bound.toParams = .ok again ∧ again.Equals bound ∧ s.bind again.toParams = .ok again ∧
      ((∀ p ∈ s.specs, ∀ d, p.kind.defaultValue = .decimal d → Decimal.read? d.toString = some d) → again = bound) := by
  have admitted (p : ParamSpec) (hp : p ∈ s.specs) : p.kind.Admits p.kind.defaultValue.reread :=
    (defaults p hp).admits_reread (small p hp).defaultValue
  have first := bind_reread distinct admitted h
  have second := bind_reread distinct admitted first
  rw [Bound.reread_reread] at second
  refine ⟨bound.reread, first, bound.equals_reread, second, fun readBack => ?_⟩
  refine reread_of_bind (fun p hp => ?_) h
  cases hv : p.kind.defaultValue with
  | decimal d =>
    have text := readBack p hp d hv
    rw [Decimal.read?_toString, Option.some.injEq] at text
    exact congrArg ParamValue.decimal text
  | _ => rfl

/-- A default of `-0.0` is bound again as `0.0`. -/
theorem bind_bound_signed_zero :
    let tenth (negative : Bool) (n : ℕ) (fits : n < 2 ^ 96) : Decimal := ⟨negative, n, 1, fits, by decide⟩
    let s : Schema := ⟨[.integer "period" 2 100 14, .decimal "offset" (tenth true 5 (by decide)) (tenth false 5 (by decide))
      (tenth true 0 (by decide)), ⟨"mode", .choice ["long", "both"] "both", ""⟩], [⟨"offset", "period"⟩]⟩
    let bound : Bound := [("mode", .choice "both"), ("offset", .decimal (tenth true 0 (by decide))), ("period", .integer 20)]
    s.bind [("period", .int 20)] = .ok bound ∧
      ∃ again, s.bind bound.toParams = .ok again ∧ again.Equals bound ∧ s.bind again.toParams = .ok again ∧
        ((∀ p ∈ s.specs, ∀ d, p.kind.defaultValue = .decimal d → Decimal.read? d.toString = some d) → again = bound) := by
  intro tenth s bound
  have small : ∀ p ∈ s.specs, p.kind.IsInt64 := by decide
  have defaults : ∀ p ∈ s.specs, p.kind.Contains p.kind.defaultValue := by
    have low : (tenth true 5 (by decide)).value ≤ (tenth true 0 (by decide)).value := by
      norm_num [tenth, Decimal.value, Decimal.numerator]
    have high : (tenth true 0 (by decide)).value ≤ (tenth false 5 (by decide)).value := by
      norm_num [tenth, Decimal.value, Decimal.numerator]
    simp [s, ParamSpec.integer, ParamSpec.decimal, ParamKind.Contains, ParamKind.defaultValue, low, high]
  have binds : s.bind [("period", .int 20)] = .ok bound := by decide +kernel
  exact ⟨binds, bind_bound (by decide) small defaults binds⟩

end Schema

end StrategyHost
