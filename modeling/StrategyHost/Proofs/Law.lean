/-! # Laws of steps

A `Law` has an invariant of a state and says what a step may do to the state when it succeeds and when it fails. A computation
that keeps to a law step by step keeps to it as a whole (`Law.Governs.bind`). -/

namespace StrategyHost
variable {σ ε α β : Type}

/-- What the steps of a computation may do to its state. What two steps may do, one after the other, one step may do. -/
structure Law (σ ε : Type) where
  inv : σ → Prop
  /-- The states before and after a step, and the failure of the step if it fails. -/
  allows : σ → Option ε → σ → Prop
  refl : ∀ s, allows s none s
  trans : ∀ {s s' s'' e?}, allows s none s' → allows s' e? s'' → allows s e? s''

def failure? : Except ε α → Option ε
  | .ok _ => none
  | .error e => some e

namespace Law
variable {L : Law σ ε} {x : ExceptT ε (StateM σ) α} {f : α → ExceptT ε (StateM σ) β} {p q : α → Prop} {r : β → Prop} {s : σ}

/-- What a run from `s` came to keeps to a law, and a result has the property `q`. -/
structure Holds (L : Law σ ε) (s : σ) (q : α → Prop) (ran : Except ε α × σ) : Prop where
  inv : L.inv ran.2
  allows : L.allows s (failure? ran.1) ran.2
  result : ∀ a, ran.1 = .ok a → q a

/-- Every run of a computation keeps to a law, and its results have the property `q`. -/
def Governs (L : Law σ ε) (x : ExceptT ε (StateM σ) α) (q : α → Prop) : Prop := ∀ s, L.inv s → L.Holds s q (x.run.run s)

theorem Holds.ok {a : α} (inv : L.inv s) (ha : q a) : L.Holds s q (.ok a, s) :=
  ⟨inv, L.refl s, by rintro _ ⟨⟩; exact ha⟩

theorem Holds.error {e : ε} {s' : σ} (inv : L.inv s') (allows : L.allows s (some e) s') :
    L.Holds s q ((.error e : Except ε α), s') :=
  ⟨inv, allows, nofun⟩

theorem Holds.trans {s' : σ} {ran : Except ε α × σ} (first : L.allows s none s') (h : L.Holds s' q ran) : L.Holds s q ran :=
  ⟨h.inv, L.trans first h.allows, h.result⟩

theorem run_bind (x : ExceptT ε (StateM σ) α) (f : α → ExceptT ε (StateM σ) β) (s : σ) : (x >>= f).run.run s =
    match x.run.run s with
    | (.ok a, s') => (f a).run.run s'
    | (.error e, s') => (.error e, s') := by
  show (ExceptT.bindCont f (x.run.run s).1).run (x.run.run s).2 = _
  obtain ⟨result, s'⟩ : Except ε α × σ := x.run.run s
  cases result <;> rfl

theorem run_get (f : σ → ExceptT ε (StateM σ) β) (s : σ) : (MonadState.get >>= f).run.run s = (f s).run.run s := rfl

namespace Governs

theorem pure {a : α} (ha : q a) : L.Governs (Pure.pure a) q := fun _ hs => .ok hs ha

theorem get : L.Governs MonadState.get L.inv := fun _ hs => .ok hs hs

theorem imp (h : L.Governs x p) (hpq : ∀ a, p a → q a) : L.Governs x q := fun s hs =>
  ⟨(h s hs).inv, (h s hs).allows, fun a ran => hpq a ((h s hs).result a ran)⟩

theorem throw {e : ε} (allowed : ∀ s, L.allows s (some e) s) : L.Governs (MonadExcept.throw e : ExceptT ε (StateM σ) α) q :=
  fun s hs => .error hs (allowed s)

theorem change {f : σ → σ} (inv : ∀ s, L.inv s → L.inv (f s)) (allowed : ∀ s, L.allows s none (f s)) :
    L.Governs (modify f : ExceptT ε (StateM σ) PUnit) fun _ => True :=
  fun s hs => ⟨inv s hs, allowed s, fun _ _ => trivial⟩

theorem bind (hx : L.Governs x p) (hf : ∀ a, p a → L.Governs (f a) r) : L.Governs (x >>= f) r := by
  intro s hs
  have first := hx s hs
  rw [run_bind]
  revert first
  rcases x.run.run s with ⟨e | a, s'⟩
  · exact fun first => .error first.inv first.allows
  · exact fun first => (hf a (first.result a rfl) s' first.inv).trans first.allows

theorem guard {c : Prop} [Decidable c] {stop : ExceptT ε (StateM σ) PUnit} {rest : PUnit → ExceptT ε (StateM σ) α}
    (hstop : L.Governs stop fun _ => False) (hrest : ¬ c → L.Governs (rest ⟨⟩) q) :
    L.Governs (if c then stop >>= rest else rest ⟨⟩) q := by
  split
  · exact bind hstop fun _ h => h.elim
  next h => exact hrest h

theorem forIn {γ : Type} {xs : List γ} {turn : γ → β → ExceptT ε (StateM σ) (ForInStep β)} {b : β}
    (h : ∀ x ∈ xs, ∀ b, L.Governs (turn x b) fun _ => True) : L.Governs (ForIn.forIn xs b turn) fun _ => True := by
  induction xs generalizing b with
  | nil => exact pure trivial
  | cons x xs ih =>
    rw [List.forIn_cons]
    refine bind (h x (List.mem_cons_self ..) b) fun next _ => ?_
    cases next with
    | done b => exact pure trivial
    | yield b => exact ih fun y hy => h y (List.mem_cons_of_mem _ hy)

end Governs

end Law

end StrategyHost
