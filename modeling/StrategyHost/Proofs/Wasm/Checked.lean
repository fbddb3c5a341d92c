import StrategyHost.Proofs.Result
import StrategyHost.Proofs.Wasm.Tree
import StrategyHost.Wasm.Validation.Checker

/-! # Checked bodies

A body that is checked is well nested (`Context.wellNested_of_checkBody`): instructions other than those that open, divide and
close a construct keep the frames as they are (`Checker.keeps_instr`), and the labels that they name have frames. -/

namespace StrategyHost.Wasm

def CheckerState.kinds (s : CheckerState) : List FrameKind := s.frames.map (·.kind)

namespace Checker
variable {α β : Type} {m : Checker α} {f : α → Checker β} {c : Context} {s s' : CheckerState} {p : List FrameKind → Prop}

theorem bind_eq_ok {b : β} : (m >>= f) c s = .ok (b, s') ↔ ∃ a t, m c s = .ok (a, t) ∧ f a c t = .ok (b, s') := by
  show ((m c s).bind fun r => f r.1 c r.2) = _ ↔ _
  cases m c s with
  | error e => exact ⟨nofun, nofun⟩
  | ok r => exact ⟨fun h => ⟨r.1, r.2, rfl, h⟩, by rintro ⟨a, t, ⟨⟩, h⟩; exact h⟩

theorem ensure_eq_ok {b : Bool} {e : Invalid} {u : Unit} (h : ensure b e c s = .ok (u, s')) : b = true ∧ s = s' := by
  cases b with
  | true => cases h; exact ⟨rfl, rfl⟩
  | false => cases h

theorem of_guarded {g : Context → Bool} {e : Invalid} {x : Context → Checker α} {a : α}
    (h : (do let c ← (read : Checker Context); if c.constant = true then (do ensure (g c) e; x c) else x c) c s = .ok (a, s')) :
    x c c s = .ok (a, s') := by
  obtain ⟨k, t, got, h⟩ := bind_eq_ok.1 h
  cases got
  split at h
  · obtain ⟨_, t, passed, more⟩ := bind_eq_ok.1 h
    obtain ⟨-, rfl⟩ := ensure_eq_ok passed
    exact more
  · exact h

/-- What a computation that succeeds does to the kinds of the frames. -/
def Turns (r : List FrameKind → List FrameKind → Prop) (m : Checker α) : Prop :=
  ∀ c s a s', m c s = .ok (a, s') → r s.kinds s'.kinds

theorem Turns.guarded {r : List FrameKind → List FrameKind → Prop} {g : Context → Bool} {e : Invalid} {x : Context → Checker α}
    (hx : ∀ c, Turns r (x c)) :
    Turns r (do let c ← (read : Checker Context); if c.constant = true then (do ensure (g c) e; x c) else x c) :=
  fun c s a s' h => hx c c s a s' (of_guarded h)

def Keeps (m : Checker α) : Prop := Turns (fun ks ks' => ks' = ks) m

theorem Turns.after {r : List FrameKind → List FrameKind → Prop} (hm : Keeps m) (hf : ∀ a, Turns r (f a)) : Turns r (m >>= f) := by
  intro c s b s' h
  obtain ⟨a, t, first, second⟩ := bind_eq_ok.1 h
  exact hm c s a t first ▸ hf a c t b s' second

namespace Keeps

@[simp] theorem pure {a : α} : Keeps (Pure.pure a) := by
  rintro c s _ _ ⟨⟩
  rfl

@[simp] theorem refuse {e : Invalid} : Keeps (Checker.refuse e : Checker α) := nofun

@[simp] theorem read : Keeps (MonadReader.read : Checker Context) := by
  rintro c s _ _ ⟨⟩
  rfl

@[simp] theorem get : Keeps (MonadState.get : Checker CheckerState) := by
  rintro c s _ _ ⟨⟩
  rfl

theorem change {g : CheckerState → CheckerState} (hg : ∀ s, (g s).kinds = s.kinds) : Keeps (modify g) := by
  rintro c s _ _ ⟨⟩
  exact hg s

theorem bind (hm : Keeps m) (hf : ∀ a, Keeps (f a)) : Keeps (m >>= f) := Turns.after hm hf

@[simp] theorem lift {x : Check α} : Keeps (lift x) := by
  intro c s a s' h
  cases x with
  | error e => cases h
  | ok a => cases h; rfl

@[simp] theorem ensure {b : Bool} {e : Invalid} : Keeps (ensure b e) := by
  intro c s u s' h
  rw [(ensure_eq_ok h).2]

theorem forM {xs : List α} {f : α → Checker PUnit} (hf : ∀ a, Keeps (f a)) : Keeps (xs.forM f) := by
  induction xs with
  | nil => exact pure
  | cons x xs ih => exact bind (hf x) fun _ => ih

theorem onFrame {g : ControlFrame → Checker α} (hg : ∀ f fs c s s' a, s.frames = f :: fs → g f c s = .ok (a, s') →
    s'.kinds = s.kinds) : Keeps (frame >>= g) := by
  intro c s a s' h
  obtain ⟨f, t, first, second⟩ := bind_eq_ok.1 h
  obtain ⟨frames, set⟩ := s
  cases frames with
  | nil => cases first
  | cons f fs =>
    cases first
    exact hg _ _ _ _ _ _ rfl second

theorem setFrame {f g : ControlFrame} {fs : List ControlFrame} {u : Unit} (hs : s.frames = f :: fs)
    (h : setFrame g c s = .ok (u, s')) (same : g.kind = f.kind) : s'.kinds = s.kinds := by
  cases h
  simp [CheckerState.kinds, hs, same]

@[simp] theorem pushOperand {o : Operand} : Keeps (pushOperand o) :=
  onFrame fun _ _ _ _ _ _ hs h => setFrame hs h rfl

@[simp] theorem setUnreachable : Keeps setUnreachable :=
  onFrame fun _ _ _ _ _ _ hs h => setFrame hs h rfl

@[simp] theorem popAny : Keeps popAny := by
  refine onFrame fun f fs c s s' a hs h => ?_
  cases hf : f.operands with
  | cons o rest =>
    simp only [hf] at h
    obtain ⟨u, t, first, second⟩ := bind_eq_ok.1 h
    cases second
    exact setFrame hs first rfl
  | nil =>
    simp only [hf] at h
    split at h
    · exact pure c s a s' h
    · cases h

end Keeps

@[simp] theorem keeps_frame : Keeps frame := by
  refine .bind .get fun s => ?_
  split
  · exact .pure
  · exact .refuse

@[simp] theorem keeps_push {t : ValType Nat} : Keeps (push t) := .pushOperand

@[simp] theorem keeps_pop {t : ValType Nat} : Keeps (pop t) := by
  unfold pop
  refine .bind .popAny fun o => ?_
  split
  · exact .pure
  · split
    · exact .pure
    · exact .refuse
  · exact .bind .read fun _ => .bind .ensure fun _ => .pure

@[simp] theorem keeps_popAll {ts : List (ValType Nat)} : Keeps (popAll ts) := .forM fun _ => .bind keeps_pop fun _ => .pure

@[simp] theorem keeps_pushAll {ts : List (ValType Nat)} : Keeps (pushAll ts) := .forM fun _ => .pushOperand

@[simp] theorem keeps_popRef : Keeps popRef := by
  unfold popRef
  refine .bind .popAny fun o => ?_
  split <;> first | exact .pure | exact .refuse

@[simp] theorem keeps_label {l : Nat} : Keeps (label l) := by
  refine .bind (.bind .get fun s => ?_) fun _ => .pure
  split
  · exact .pure
  · exact .refuse

@[simp] theorem keeps_retype {ts : List (ValType Nat)} : Keeps (retype ts) := .bind keeps_popAll fun _ => keeps_pushAll

@[simp] theorem keeps_peekAll {ts : List (ValType Nat)} : Keeps (peekAll ts) := by
  intro c s a s' h
  obtain ⟨s₀, t, got, h⟩ := bind_eq_ok.1 h
  cases got
  obtain ⟨u, t, -, h⟩ := bind_eq_ok.1 h
  cases h
  rfl

@[simp] theorem keeps_item {space : Space} {items : Array α} {n : Nat} : Keeps (item space items n) := by
  unfold item
  split
  · exact .pure
  · exact .refuse

theorem keeps_lookup {space : Space} {items : Context → Array α} {n : Nat} : Keeps (do item space (items (← read)) n) :=
  .bind .read fun _ => keeps_item

@[simp] theorem keeps_table {n : Nat} : Keeps (table n) := keeps_lookup

@[simp] theorem keeps_memory {n : Nat} : Keeps (memory n) := keeps_lookup

@[simp] theorem keeps_global {n : Nat} : Keeps (global n) := keeps_lookup

@[simp] theorem keeps_elem {n : Nat} : Keeps (elem n) := keeps_lookup

@[simp] theorem keeps_local {n : Nat} : Keeps (local' n) := keeps_lookup

@[simp] theorem keeps_signature {n : Nat} : Keeps (signature n) := .bind .read fun _ => .lift

@[simp] theorem keeps_data {n : Nat} : Keeps (data n) := .bind .read fun _ => .ensure

@[simp] theorem keeps_feature {has : Features → Bool} {name : String} : Keeps (feature has name) := .bind .read fun _ => .ensure

@[simp] theorem keeps_wellFormed {t : ValType Nat} : Keeps (wellFormed t) := .bind .read fun _ => .lift

@[simp] theorem keeps_subRef {a b : RefType Nat} : Keeps (subRef a b) := .bind .read fun _ => .ensure

@[simp] theorem keeps_apply {ps rs : List (ValType Nat)} : Keeps (apply ps rs) := .bind keeps_popAll fun _ => keeps_pushAll

@[simp] theorem keeps_memArg {n : Nat} {a : MemArg Nat} : Keeps (memArg n a) :=
  .bind keeps_lookup fun _ => .bind .ensure fun _ => .ensure

@[simp] theorem keeps_tailApply {t : FuncType Nat} : Keeps (tailApply t) :=
  .bind .read fun _ => .bind .ensure fun _ => .bind keeps_popAll fun _ => .setUnreachable

@[simp] theorem keeps_funcType {n : Nat} : Keeps (funcType n) := .bind .read fun _ => .bind keeps_item fun _ => .lift

@[simp] theorem keeps_tag {n : Nat} : Keeps (tag n) := .bind .read fun _ => .bind keeps_item fun _ => .lift

@[simp] theorem keeps_indirect {n t : Nat} : Keeps (indirect n t) :=
  .bind keeps_lookup fun _ => .bind keeps_subRef fun _ => .bind keeps_signature fun _ => .bind keeps_pop fun _ => .pure

@[simp] theorem keeps_blockSignature {t : BlockType Nat} : Keeps (blockSignature t) := by
  cases t with
  | empty => exact .pure
  | value t => exact .bind keeps_wellFormed fun _ => .pure
  | func n => exact keeps_signature

@[simp] theorem keeps_catchClause {k : Catch Nat} : Keeps (catchClause k) := by
  unfold catchClause
  dsimp only
  have rest (given : List (ValType Nat)) : Keeps (do
      let wanted ← label k.label
      ensure (TypeSpace.all2 (← read).types.valSub given wanted) .typeMismatch) :=
    .bind keeps_label fun _ => .bind .read fun _ => .ensure
  split <;> split <;> refine .bind ?_ fun _ => rest _
  all_goals first | exact .pure | exact .bind keeps_tag fun _ => .pure

@[simp] theorem keeps_field {t x : Nat} : Keeps (field t x) := by
  refine .bind .read fun _ => .bind .lift fun _ => ?_
  split
  · exact .pure
  · exact .refuse

@[simp] theorem keeps_extension {e : Extension} {t : StorageType Nat} : Keeps (extension e t) := .ensure

@[simp] theorem keeps_numericStorage {t : StorageType Nat} : Keeps (numericStorage t) := .ensure

@[simp] theorem keeps_element {t : Nat} : Keeps (element t) := .bind .read fun _ => .lift

@[simp] theorem keeps_top {h : HeapType Nat} : Keeps (top h) := by
  refine .bind .read fun _ => ?_
  dsimp only
  split <;> exact .pure

@[simp] theorem keeps_popCast {r : RefType Nat} : Keeps (popCast r) :=
  .bind .read fun _ => .bind .lift fun _ => .bind keeps_top fun _ => .bind keeps_pop fun _ => .pure

@[simp] theorem keeps_vectorInstr {op : VectorOp} {arg? : Option (MemArg Nat)} {lanes : List Nat} : Keeps (vectorInstr op arg? lanes) := by
  unfold vectorInstr
  dsimp only
  repeat' first
    | with_reducible refine .bind ?_ fun _ => ?_
    | split
    | simp

@[simp] theorem keeps_heapInstr {op : HeapInstr Nat} : Keeps (heapInstr op) := by
  cases op <;> unfold heapInstr <;> dsimp only
  all_goals repeat' first
    | with_reducible refine .bind ?_ fun _ => ?_
    | split
    | simp

theorem keeps_plain {i : Instr Nat} (h : i.isPlain = true) : Keeps (instr i) := by
  cases i <;> cases h
  case' select types? => cases types?
  all_goals
    unfold instr
    dsimp only
    refine Turns.guarded fun c => show Keeps _ from ?_
  all_goals repeat' first
    | with_reducible refine .bind ?_ fun _ => ?_
    | with_reducible refine .forM fun _ => ?_
    | split
    | simp
    | exact .change fun _ => rfl

theorem turns_leave {f : ControlFrame} (h : leave c s = .ok (f, s')) : s.kinds = f.kind :: s'.kinds := by
  obtain ⟨frames, set⟩ := s
  obtain ⟨g, t, first, h⟩ := bind_eq_ok.1 h
  cases frames with
  | nil => cases first
  | cons g fs =>
  cases first
  obtain ⟨_, t₁, popped, h⟩ := bind_eq_ok.1 h
  obtain ⟨top, t₂, looked, h⟩ := bind_eq_ok.1 h
  obtain ⟨_, t₃, empty, h⟩ := bind_eq_ok.1 h
  have kept := ((Keeps.ensure _ _ _ _ empty).trans (keeps_frame _ _ _ _ looked)).trans (keeps_popAll _ _ _ _ popped)
  cases h
  obtain ⟨frames, set⟩ := t₃
  cases frames with
  | nil => cases kept
  | cons k ks => exact kept.symm.trans (congrArg (· :: _) (List.cons.inj kept).1)

theorem turns_enter {k : FrameKind} {ps rs : List (ValType Nat)} : Turns (fun ks ks' => ks' = k :: ks) (enter k ps rs) := by
  intro c s u s' h
  obtain ⟨t, t₁, got, h⟩ := bind_eq_ok.1 h
  obtain ⟨_, t₂, changed, h⟩ := bind_eq_ok.1 h
  cases got
  cases changed
  exact keeps_pushAll _ _ _ _ h

/-! ### Labels -/

def Finds (l : Nat) (m : Checker α) : Prop := Turns (fun ks _ => l < ks.length) m

namespace Finds
variable {l : Nat}

theorem before (hm : Finds l m) : Finds l (m >>= f) := by
  intro c s b s' h
  obtain ⟨a, t, first, second⟩ := bind_eq_ok.1 h
  exact hm c s a t first

theorem after (hm : Keeps m) (hf : ∀ a, Finds l (f a)) : Finds l (m >>= f) := by
  intro c s b s' h
  obtain ⟨a, t, first, second⟩ := bind_eq_ok.1 h
  exact hm c s a t first ▸ hf a c t b s' second

theorem forM {xs : List α} {f : α → Checker PUnit} {x : α} (hf : ∀ a, Keeps (f a)) (hx : x ∈ xs) (h : Finds l (f x)) :
    Finds l (xs.forM f) := by
  induction xs with
  | nil => cases hx
  | cons y xs ih =>
    rcases List.mem_cons.1 hx with rfl | hx
    · exact before h
    · exact after (hf y) fun _ => ih hx

theorem label : Finds l (label l) := by
  refine before fun c s a s' h => ?_
  obtain ⟨t, t₁, got, h⟩ := bind_eq_ok.1 h
  cases got
  rw [CheckerState.kinds, List.length_map]
  cases found : s.frames[l]? with
  | none => rw [found] at h; cases h
  | some f => exact (List.getElem?_eq_some_iff.1 found).1

end Finds

theorem finds_instr {i : Instr Nat} {l : Nat} (h : l ∈ i.branchLabels) : Finds l (instr i) := by
  cases i
  case br l' =>
    obtain rfl := List.mem_singleton.1 h
    unfold instr
    exact Turns.guarded fun c => Finds.before .label
  case brIf l' =>
    obtain rfl := List.mem_singleton.1 h
    unfold instr
    exact Turns.guarded fun c => Finds.after keeps_pop fun _ => .before .label
  case brTable ls d =>
    unfold instr
    refine Turns.guarded fun c => Finds.after keeps_pop fun _ => ?_
    rcases List.mem_cons.1 h with rfl | h
    · exact .before .label
    · refine .after keeps_label fun _ => .before (.forM (fun _ => ?_) h (.before .label))
      exact .bind keeps_label fun _ => .bind .ensure fun _ => keeps_peekAll
  all_goals cases h

/-! ### Sequences -/

def opening : FrameKind → Opening
  | .conditional => .conditional
  | .alternative => .alternative
  | _ => .block

theorem turns_block {kind : BlockKind Nat} {type : BlockType Nat} :
    Turns (fun ks ks' => ∃ k, opening k = .ofKind kind ∧ ks' = k :: ks) (instr (.block kind type)) := by
  have opens {k : FrameKind} {ps rs : List (ValType Nat)} (h : opening k = .ofKind kind) :
      Turns (fun ks ks' => ∃ k, opening k = .ofKind kind ∧ ks' = k :: ks) (enter k ps rs) :=
    fun c s u s' ok => ⟨k, h, turns_enter c s u s' ok⟩
  unfold instr
  refine Turns.guarded fun c => ?_
  cases kind with
  | plain | loop => exact .after keeps_blockSignature fun _ => .after keeps_popAll fun _ => opens rfl
  | conditional =>
    exact .after keeps_blockSignature fun _ => .after keeps_pop fun _ => .after keeps_popAll fun _ => opens rfl
  | handler catches =>
    exact .after keeps_feature fun _ => .after keeps_blockSignature fun _ => .after (.forM fun _ => keeps_catchClause) fun _ =>
      .after keeps_popAll fun _ => opens rfl
  | withdrawn => exact .after .refuse fun _ => .after keeps_blockSignature fun _ => .after keeps_popAll fun _ => opens rfl

theorem turns_otherwise : Turns (fun ks ks' => ∃ os, ks = .conditional :: os ∧ ks' = .alternative :: os) (instr .otherwise) := by
  unfold instr
  refine Turns.guarded fun c c s u s' h => ?_
  obtain ⟨f, t, left, h⟩ := bind_eq_ok.1 h
  obtain ⟨_, t₁, same, more⟩ := bind_eq_ok.1 h
  obtain ⟨conditional, rfl⟩ := ensure_eq_ok same
  rw [turns_leave left, turns_enter _ _ _ _ more, eq_of_beq conditional]
  exact ⟨_, rfl, rfl⟩

theorem keeps_pushEnds {ts : List (ValType Nat)} : Keeps (do
    match (← get).frames with
    | [] => return ()
    | _ :: _ => pushAll ts) := by
  refine .bind .get fun t => ?_
  split
  · exact .pure
  · exact keeps_pushAll

theorem turns_close : Turns (fun ks ks' => ∃ k, ks = k :: ks') (instr .close) := by
  unfold instr
  refine Turns.guarded fun c c s u s' h => ?_
  obtain ⟨f, t, left, h⟩ := bind_eq_ok.1 h
  refine ⟨f.kind, (turns_leave left).trans (congrArg _ ?_)⟩
  split at h
  · -- a conditional without another arm: the arm is entered and left at once
    obtain ⟨_, t₁, entered, h⟩ := bind_eq_ok.1 h
    obtain ⟨g, t₂, again, h⟩ := bind_eq_ok.1 h
    have kinds := (turns_enter _ _ _ _ entered).symm.trans (turns_leave again)
    exact (List.cons.inj kinds).2.trans (keeps_pushEnds _ _ _ _ h).symm
  · exact (keeps_pushEnds _ _ _ _ h).symm

theorem closes_of_sequence {b : Body} {u : Unit} (h : sequence b c s = .ok (u, s')) : Closes (s.kinds.map opening) b := by
  induction b generalizing s with
  | nil =>
    obtain ⟨t, t₁, got, h⟩ := bind_eq_ok.1 h
    cases got
    rw [CheckerState.kinds, List.isEmpty_iff.1 (ensure_eq_ok h).1]
    exact .nil
  | cons i b ih =>
    rw [sequence] at h
    obtain ⟨t, t₁, got, h⟩ := bind_eq_ok.1 h
    cases got
    obtain ⟨_, t, passed, more⟩ := bind_eq_ok.1 h
    obtain ⟨isOpen, rfl⟩ := ensure_eq_ok passed
    obtain ⟨_, t', first, last⟩ := bind_eq_ok.1 more
    have rest := ih last
    obtain ⟨k, ks, hs⟩ : ∃ k ks, s.kinds = k :: ks := by
      refine List.exists_cons_of_ne_nil fun none => ?_
      rw [List.map_eq_nil_iff.1 none] at isOpen
      cases isOpen
    by_cases isPlain : i.isPlain = true
    · rw [keeps_plain isPlain _ _ _ _ first] at rest
      have inScope (l : Nat) (hl : l ∈ i.branchLabels) : l < (s.kinds.map opening).length := by
        rw [List.length_map]
        exact finds_instr hl _ _ _ _ first
      rw [hs] at rest inScope ⊢
      exact .plain isPlain inScope rest
    · cases i <;> first | exact absurd rfl isPlain | skip
      case block kind type =>
        obtain ⟨k', kind, hk⟩ := turns_block _ _ _ _ first
        rw [hk, hs, List.map_cons, kind] at rest
        rw [hs]
        exact .block rest
      case otherwise =>
        obtain ⟨os, hs, hk⟩ := turns_otherwise _ _ _ _ first
        rw [hk] at rest
        rw [hs]
        exact .otherwise rest
      case close =>
        obtain ⟨k, hs⟩ := turns_close _ _ _ _ first
        rw [hs]
        exact .close rest

end Checker

/-- A body that is checked is well nested. -/
theorem Context.wellNested_of_checkBody {c : Context} {results : List (ValType Nat)} {params : Nat} {b : Body}
    (h : c.checkBody results params b = .ok ()) : WellNested b := by
  unfold checkBody at h
  obtain ⟨⟨u, s'⟩, checked, -⟩ := StrategyHost.bind_eq_ok.1 h
  exact Checker.closes_of_sequence checked

end StrategyHost.Wasm
