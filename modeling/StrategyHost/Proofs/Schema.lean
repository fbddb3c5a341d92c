import StrategyHost.Proofs.Decimal
import StrategyHost.Proofs.Json.Sorting
import StrategyHost.Proofs.Result
import StrategyHost.Schema

/-! # Bound parameters

What a schema has bound it binds again from the untyped form, and to the same but for the sign of a zero
(`Schema.bind_reread`), as long as its names are distinct and its defaults are in their ranges. The defaults of a sound schema
have no such sign either (`Schema.bind_toParams`). -/

namespace StrategyHost

/-! ### Values -/

/-- The values that a kind of parameter can have. -/
def ParamKind.Admits : ParamKind → ParamValue → Prop
  | integer min max _, .integer n => min ≤ n ∧ n ≤ max ∧ n < 2 ^ 63
  | decimal min max _, .decimal d => d.lt min = false ∧ max.lt d = false ∧ d.IsNormal
  | boolean _, .boolean _ => True
  | choice options _, .choice s => options.contains s = true
  | _, _ => False

instance (kind : ParamKind) (v : ParamValue) : Decidable (kind.Admits v) := by
  unfold ParamKind.Admits
  split <;> infer_instance

namespace ParamValue

/-- The value that is read back from the untyped form: no zero has a sign there. -/
def reread : ParamValue → ParamValue
  | decimal d => .decimal d.unsigned
  | v => v

theorem reread_reread (v : ParamValue) : v.reread.reread = v.reread := by
  cases v with
  | decimal d => exact congrArg decimal Decimal.isNormal_unsigned.unsigned
  | _ => rfl

theorem asDecimal?_reread (v : ParamValue) : v.reread.asDecimal? = v.asDecimal?.map Decimal.unsigned := by
  cases v with
  | integer n => exact congrArg some Decimal.isNormal_ofInt.unsigned.symm
  | _ => rfl

end ParamValue

namespace ParamKind
variable {kind : ParamKind} {v : ParamValue} {raw : Json}

theorem Admits.reread (h : kind.Admits v) : v.reread = v := by
  cases v with
  | decimal d =>
    cases kind with
    | decimal min max _ =>
      obtain ⟨-, -, normal⟩ := h
      exact congrArg ParamValue.decimal normal.unsigned
    | _ => exact h.elim
  | _ => rfl

theorem admits_of_read (h : kind.read raw = .ok v) : kind.Admits v := by
  cases kind with
  | integer min max _ =>
    cases raw <;> simp only [read] at h <;> try cases h
    split_ifs at h with large range
    cases h
    simp only [Admits]
    omega
  | decimal min max _ =>
    simp only [read] at h
    cases hd : readDecimal? raw with
    | none => simp [hd] at h
    | some d =>
      simp only [hd] at h
      split_ifs at h with range
      cases h
      simp only [Bool.or_eq_true, not_or, Bool.not_eq_true] at range
      refine ⟨range.1, range.2, ?_⟩
      cases raw <;> simp only [readDecimal?] at hd <;> first | exact Decimal.isNormal_of_read? hd | cases hd
  | boolean _ =>
    cases raw <;> simp only [read] at h <;> cases h
    trivial
  | choice options _ =>
    cases raw <;> simp only [read] at h <;> try cases h
    split_ifs at h with known
    cases h
    exact known

theorem read_toJson (h : kind.Admits v.reread) : kind.read v.toJson = .ok v.reread := by
  cases kind <;> cases v <;> first | exact h.elim | skip
  case integer.integer min max _ n =>
    obtain ⟨low, high, small⟩ := h
    simp only [read, ParamValue.toJson, ParamValue.reread]
    rw [if_neg (not_le.2 small), if_neg (by omega)]
  case decimal.decimal min max _ d =>
    obtain ⟨low, high, -⟩ := h
    simp [read, ParamValue.toJson, ParamValue.reread, readDecimal?, Decimal.read?_toString, low, high]
  case boolean.boolean => rfl
  case choice.choice options _ s =>
    exact if_pos h

end ParamKind

/-! ### Schemas -/

/-- No parameter is declared twice, and the defaults are values that the declarations and the rules allow. -/
structure Schema.IsSound (s : Schema) : Prop where
  names : (s.specs.map (·.name)).Nodup
  defaults : ∀ p ∈ s.specs, p.kind.Admits p.kind.defaultValue
  rules : s.rules.findSome? (·.violation? s.defaults) = none

theorem ParamSpec.admits_of_bind {p : ParamSpec} {raw? : Option Json} {v : ParamValue}
    (default : p.kind.Admits p.kind.defaultValue) (h : p.bind raw? = .ok v) : p.kind.Admits v := by
  cases raw? with
  | none =>
    cases h
    exact default
  | some raw =>
    exact p.kind.admits_of_read (mapError_eq_ok.1 h)

theorem ParamSpec.admits_reread_of_bind {p : ParamSpec} {raw? : Option Json} {v : ParamValue}
    (default : p.kind.Admits p.kind.defaultValue.reread) (h : p.bind raw? = .ok v) : p.kind.Admits v.reread := by
  cases raw? with
  | none =>
    cases h
    exact default
  | some raw =>
    have admitted := p.kind.admits_of_read (mapError_eq_ok.1 h)
    rwa [admitted.reread]

theorem ParamSpec.reread_of_bind {p : ParamSpec} {raw? : Option Json} {v : ParamValue}
    (default : p.kind.defaultValue.reread = p.kind.defaultValue) (h : p.bind raw? = .ok v) : v.reread = v := by
  cases raw? with
  | none =>
    cases h
    exact default
  | some raw => exact (p.kind.admits_of_read (mapError_eq_ok.1 h)).reread

theorem ParamSpec.bind_toJson {p : ParamSpec} {v : ParamValue} (h : p.kind.Admits v.reread) :
    p.bind (some v.toJson) = .ok v.reread := by
  rw [bind, ParamKind.read_toJson h]
  rfl

def Bound.reread (b : Bound) : Bound := b.map fun f => (f.1, f.2.reread)

theorem Bound.reread_reread (b : Bound) : b.reread.reread = b.reread := by
  simp [reread, ParamValue.reread_reread]

theorem Bound.get?_reread (b : Bound) (name : String) : b.reread.get? name = (b.get? name).map ParamValue.reread := by
  rw [reread, get?, List.find?_map, get?, Option.map_map, Option.map_map]
  rfl

theorem Bound.get?_toParams (b : Bound) (name : String) : b.toParams.get? name = (b.get? name).map ParamValue.toJson := by
  rw [toParams, Params.get?, List.find?_map, get?, Option.map_map, Option.map_map]
  rfl

theorem LessThan.violation?_reread {r : LessThan} {b : Bound} (h : r.violation? b = none) : r.violation? b.reread = none := by
  have side (name : String) : (b.reread.get? name).bind ParamValue.asDecimal? =
      ((b.get? name).bind ParamValue.asDecimal?).map Decimal.unsigned := by
    rw [Bound.get?_reread, Option.bind_map]
    cases b.get? name with
    | none => rfl
    | some v => exact v.asDecimal?_reread
  unfold violation? at h ⊢
  rw [side, side]
  cases hlow : (b.get? r.lower).bind ParamValue.asDecimal? with
  | none => rfl
  | some low =>
    cases hhigh : (b.get? r.upper).bind ParamValue.asDecimal? with
    | none => rfl
    | some high =>
      have order : high.unsigned.le low.unsigned = high.le low := by
        simp only [Decimal.le, Decimal.numerator_unsigned]
        rfl
      rw [hlow, hhigh] at h
      simp only [Option.map_some, order]
      simp only at h
      split_ifs at h with broken
      simp [broken]

namespace Schema
variable {s : Schema} {params again : Params} {bound : Bound} {p : ParamSpec} {specs : List ParamSpec}
  {values : List (String × ParamValue)}

theorem bindSpecs_cons : bindSpecs params (p :: specs) = .ok values ↔
    ∃ v rest, p.bind (params.get? p.name) = .ok v ∧ bindSpecs params specs = .ok rest ∧ values = (p.name, v) :: rest := by
  simp only [bindSpecs, bind_eq_ok]
  constructor
  · rintro ⟨v, first, rest, more, done⟩
    cases done
    exact ⟨v, rest, first, more, rfl⟩
  · rintro ⟨v, rest, first, more, rfl⟩
    exact ⟨v, first, rest, more, rfl⟩

theorem names_of_bindSpecs (h : bindSpecs params specs = .ok values) : values.map (·.1) = specs.map (·.name) := by
  induction specs generalizing values with
  | nil => cases h; rfl
  | cons p specs ih =>
    obtain ⟨v, rest, -, more, rfl⟩ := bindSpecs_cons.1 h
    rw [List.map_cons, List.map_cons, ih more]

theorem reread_of_bindSpecs (defaults : ∀ p ∈ specs, p.kind.defaultValue.reread = p.kind.defaultValue)
    (h : bindSpecs params specs = .ok values) : ∀ f ∈ values, f.2.reread = f.2 := by
  induction specs generalizing values with
  | nil =>
    cases h
    exact List.forall_mem_nil _
  | cons p specs ih =>
    obtain ⟨default, defaults⟩ := List.forall_mem_cons.1 defaults
    obtain ⟨v, rest, first, more, rfl⟩ := bindSpecs_cons.1 h
    exact List.forall_mem_cons.2 ⟨p.reread_of_bind default first, ih defaults more⟩

/-- Values that were bound are bound again from parameters that hold them. -/
theorem bindSpecs_again (defaults : ∀ p ∈ specs, p.kind.Admits p.kind.defaultValue.reread)
    (h : bindSpecs params specs = .ok values) (holds : ∀ f ∈ values, again.get? f.1 = some f.2.toJson) :
    bindSpecs again specs = .ok (values.map fun f => (f.1, f.2.reread)) := by
  induction specs generalizing values with
  | nil =>
    cases h
    rfl
  | cons p specs ih =>
    obtain ⟨v, rest, first, more, rfl⟩ := bindSpecs_cons.1 h
    have admitted := p.admits_reread_of_bind (defaults p (List.mem_cons_self ..)) first
    refine bindSpecs_cons.2 ⟨v.reread, rest.map fun f => (f.1, f.2.reread), ?_, ?_, rfl⟩
    · rw [holds _ (List.mem_cons_self ..), ParamSpec.bind_toJson admitted]
    · exact ih (fun p hp => defaults p (List.mem_cons_of_mem _ hp)) more fun f hf => holds f (List.mem_cons_of_mem _ hf)

theorem bindSpecs_nothing : bindSpecs [] specs = .ok (specs.map fun p => (p.name, p.kind.defaultValue)) := by
  induction specs with
  | nil => rfl
  | cons p specs ih => exact bindSpecs_cons.2 ⟨_, _, rfl, ih, rfl⟩

theorem bind_eq_ok : s.bind params = .ok bound ↔ s.unknown? params = none ∧
    ∃ values, bindSpecs params s.specs = .ok values ∧ s.rules.findSome? (·.violation? (sortFields values)) = none ∧
      bound = sortFields values := by
  rw [bind]
  cases s.unknown? params with
  | some key => simp
  | none =>
    simp only [StrategyHost.bind_eq_ok, true_and]
    refine exists_congr fun values => and_congr_right fun _ => ?_
    cases s.rules.findSome? (·.violation? (sortFields values)) with
    | some e => simp
    | none => simp [eq_comm]

theorem unknown?_eq_none : s.unknown? params = none ↔ ∀ f ∈ params, f.1 ∈ s.specs.map (·.name) := by
  simp only [unknown?, Option.map_eq_none_iff, List.find?_eq_none, Bool.not_eq_true', Bool.not_eq_false,
    List.any_eq_true, beq_iff_eq, List.mem_map]

/-- What a schema has bound it binds again, and to the same but for the sign of a zero. -/
theorem bind_reread (distinct : (s.specs.map (·.name)).Nodup)
    (defaults : ∀ p ∈ s.specs, p.kind.Admits p.kind.defaultValue.reread) (h : s.bind params = .ok bound) :
    s.bind bound.toParams = .ok bound.reread := by
  obtain ⟨-, values, hvalues, kept, rfl⟩ := bind_eq_ok.1 h
  have names := names_of_bindSpecs hvalues
  have sorted : Bound.reread (sortFields values) = sortFields (values.map fun f => (f.1, f.2.reread)) :=
    (sortFields_map ParamValue.reread).symm
  refine bind_eq_ok.2 ⟨unknown?_eq_none.2 ?_, _, bindSpecs_again defaults hvalues ?_, ?_, sorted⟩
  · intro f hf
    obtain ⟨g, hg, rfl⟩ := List.mem_map.1 hf
    exact names ▸ List.mem_map_of_mem (mem_of_mem_sortFields hg)
  · intro f hf
    rw [Bound.get?_toParams, Bound.get?, find?_sortFields_of_mem (names ▸ distinct) hf]
    rfl
  · rw [← sorted]
    rw [List.findSome?_eq_none_iff] at kept ⊢
    exact fun r hr => LessThan.violation?_reread (kept r hr)

theorem reread_of_bind (defaults : ∀ p ∈ s.specs, p.kind.defaultValue.reread = p.kind.defaultValue)
    (h : s.bind params = .ok bound) : bound.reread = bound := by
  obtain ⟨-, values, hvalues, -, rfl⟩ := bind_eq_ok.1 h
  have plain (f : String × ParamValue) (hf : f ∈ sortFields values) : (f.1, f.2.reread) = f := by
    rw [reread_of_bindSpecs defaults hvalues f (mem_of_mem_sortFields hf)]
  exact (List.map_congr_left plain).trans (List.map_id' _)

/-- What a sound schema has bound it binds again, and to the same. -/
theorem bind_toParams (sound : s.IsSound) (h : s.bind params = .ok bound) : s.bind bound.toParams = .ok bound := by
  have plain (p : ParamSpec) (hp : p ∈ s.specs) : p.kind.defaultValue.reread = p.kind.defaultValue :=
    (sound.defaults p hp).reread
  have again := bind_reread sound.names (fun p hp => (plain p hp).symm ▸ sound.defaults p hp) h
  rwa [reread_of_bind plain h] at again

theorem bind_nothing (sound : s.IsSound) : s.bind [] = .ok s.defaults :=
  bind_eq_ok.2 ⟨rfl, _, bindSpecs_nothing, sound.rules, rfl⟩

theorem bind_defaults (sound : s.IsSound) : s.bind s.defaults.toParams = .ok s.defaults :=
  bind_toParams sound (bind_nothing sound)

end Schema

/-! ### Refused parameters -/

theorem LessThan.exists_of_violation? {r : LessThan} {b : Bound} {e : LoadError} (h : r.violation? b = some e) :
    ∃ parameter reason, e = .invalidParameter parameter reason := by
  unfold violation? at h
  split at h
  · split at h
    · cases h
      exact ⟨_, _, rfl⟩
    · cases h
  · cases h

theorem ParamSpec.exists_of_bind {p : ParamSpec} {raw? : Option Json} {e : LoadError} (h : p.bind raw? = .error e) :
    ∃ parameter reason, e = .invalidParameter parameter reason := by
  unfold bind at h
  split at h
  · obtain ⟨reason, -, rfl⟩ := mapError_eq_error.1 h
    exact ⟨p.name, reason, rfl⟩
  · cases h

theorem Schema.exists_of_bindSpecs {params : Params} {specs : List ParamSpec} {e : LoadError}
    (h : bindSpecs params specs = .error e) : ∃ parameter reason, e = .invalidParameter parameter reason := by
  induction specs with
  | nil => cases h
  | cons p specs ih =>
    rw [bindSpecs] at h
    rcases bind_eq_error.1 h with first | ⟨v, -, h⟩
    · exact ParamSpec.exists_of_bind first
    rcases bind_eq_error.1 h with more | ⟨rest, -, h⟩
    · exact ih more
    · cases h

theorem Schema.exists_of_bind {s : Schema} {params : Params} {e : LoadError} (h : s.bind params = .error e) :
    ∃ parameter reason, e = .invalidParameter parameter reason := by
  rw [bind] at h
  split at h
  · cases h
    exact ⟨_, _, rfl⟩
  rcases bind_eq_error.1 h with values | ⟨values, -, h⟩
  · exact exists_of_bindSpecs values
  dsimp only at h
  split at h
  · rename_i broken
    obtain ⟨rule, -, violated⟩ := List.exists_of_findSome?_eq_some broken
    cases h
    exact LessThan.exists_of_violation? violated
  · cases h

end StrategyHost
