import Mathlib.Logic.Basic
import StrategyHost.Proofs.Wasm.Tree
import StrategyHost.Sanitizer.Loops

/-! # Loops that are counted

The scan counts a loop if something inside goes back to its start, outside of conditionals within the loop, and nothing inside
leaves it (`Tree.Spins`). Main statement: `unboundedLoops_body`. What a part of a body does to the frames around it is said by
`Effects`, one rule for each way to put parts together. -/

namespace StrategyHost.Wasm

/-- Whether an instruction ends the function, as far as the scan sees. -/
def Instr.endsFunction : Instr Nat → Bool
  | .ret | .tailCall _ | .tailCallIndirect _ _ | .unreachable => true
  | _ => false

/-- The instruction ends the function or names something outside of the construct number `k` around the tree. -/
def Placed.LeavesPast (k : Nat) (p : Placed) : Prop := p.instr.endsFunction = true ∨ ∃ l ∈ p.instr.branchLabels, p.depth + k < l

/-- The instruction branches to the construct number `k` around the tree, and no conditional in the tree is around it. -/
def Placed.JumpsBack (k : Nat) (p : Placed) : Prop := p.instr = .br (p.depth + k) ∧ p.guarded = false

theorem Placed.leavesPast_within {p : Placed} {conditional : Bool} {k : Nat} :
    (p.within conditional).LeavesPast k ↔ p.LeavesPast (k + 1) := by
  simp only [LeavesPast, within, Nat.add_assoc, Nat.add_comm 1]

theorem Placed.jumpsBack_within {p : Placed} {conditional : Bool} {k : Nat} :
    (p.within conditional).JumpsBack k ↔ p.JumpsBack (k + 1) ∧ conditional = false := by
  simp only [JumpsBack, within, Nat.add_assoc, Nat.add_comm 1, Bool.or_eq_false_iff, and_assoc]

namespace Tree

def LeavesPast (t : Tree) (k : Nat) : Prop := ∃ p ∈ t.placed, p.LeavesPast k

def JumpsBack (t : Tree) (k : Nat) : Prop := ∃ p ∈ t.placed, p.JumpsBack k

/-- As the inside of a loop, it goes back to the start of the loop, and nothing leaves the loop. -/
def Spins (t : Tree) : Prop := t.JumpsBack 0 ∧ ¬ t.LeavesPast 0

instance (t : Tree) : Decidable t.Spins := by
  unfold Spins JumpsBack LeavesPast Placed.JumpsBack Placed.LeavesPast
  infer_instance

section
variable {inner yes no rest : Tree} {k : Nat} {i : Instr Nat} {kind : BlockKind Nat} {type : BlockType Nat}

theorem not_leavesPast_done : ¬ done.LeavesPast k := by
  rintro ⟨p, hp, -⟩
  cases hp

theorem not_jumpsBack_done : ¬ done.JumpsBack k := by
  rintro ⟨p, hp, -⟩
  cases hp

theorem leavesPast_plain {h : i.isPlain = true} :
    (plain i h rest).LeavesPast k ↔ (i.endsFunction = true ∨ ∃ l ∈ i.branchLabels, k < l) ∨ rest.LeavesPast k := by
  simp only [LeavesPast, placed, List.mem_cons, or_and_right, exists_or, exists_eq_left, Placed.LeavesPast, Nat.zero_add]

theorem jumpsBack_plain {h : i.isPlain = true} : (plain i h rest).JumpsBack k ↔ i = .br k ∨ rest.JumpsBack k := by
  simp only [JumpsBack, placed, List.mem_cons, or_and_right, exists_or, exists_eq_left, Placed.JumpsBack, Nat.zero_add, and_true]

theorem leavesPast_block {h : kind ≠ .conditional} :
    (block kind type h inner rest).LeavesPast k ↔ inner.LeavesPast (k + 1) ∨ rest.LeavesPast k := by
  simp only [LeavesPast, placed, List.mem_append, List.mem_map, or_and_right, exists_or, exists_exists_and_eq_and,
    Placed.leavesPast_within]

theorem jumpsBack_block {h : kind ≠ .conditional} :
    (block kind type h inner rest).JumpsBack k ↔ inner.JumpsBack (k + 1) ∨ rest.JumpsBack k := by
  simp only [JumpsBack, placed, List.mem_append, List.mem_map, or_and_right, exists_or, exists_exists_and_eq_and,
    Placed.jumpsBack_within, and_true]

theorem leavesPast_when : (when type yes rest).LeavesPast k ↔ yes.LeavesPast (k + 1) ∨ rest.LeavesPast k := by
  simp only [LeavesPast, placed, List.mem_append, List.mem_map, or_and_right, exists_or, exists_exists_and_eq_and,
    Placed.leavesPast_within]

theorem jumpsBack_when : (when type yes rest).JumpsBack k ↔ rest.JumpsBack k := by
  simp only [JumpsBack, placed, List.mem_append, List.mem_map, or_and_right, exists_or, exists_exists_and_eq_and,
    Placed.jumpsBack_within, Bool.true_eq_false, and_false, exists_false, false_or]

theorem leavesPast_choose : (choose type yes no rest).LeavesPast k ↔
    (yes.LeavesPast (k + 1) ∨ no.LeavesPast (k + 1)) ∨ rest.LeavesPast k := by
  simp only [LeavesPast, placed, List.mem_append, List.mem_map, or_and_right, exists_or, exists_exists_and_eq_and,
    Placed.leavesPast_within]

theorem jumpsBack_choose : (choose type yes no rest).JumpsBack k ↔ rest.JumpsBack k := by
  simp only [JumpsBack, placed, List.mem_append, List.mem_map, or_and_right, exists_or, exists_exists_and_eq_and,
    Placed.jumpsBack_within, Bool.true_eq_false, and_false, exists_false, or_self, false_or]

end

end Tree

end StrategyHost.Wasm

namespace StrategyHost.Sanitizer
open Wasm

/-! ### Frames -/

/-- Frames before and after something that leaves some of the loops among them and goes back to the start of others, by number,
innermost first. A way back through a conditional does not count. -/
def Tracks : (Nat → Prop) → (Nat → Prop) → List LoopFrame → List LoopFrame → Prop
  | _, _, [], [] => True
  | leaves, back, f :: fs, g :: gs =>
    g.kind = f.kind ∧
      (g.kind = .loop → (g.exits = true ↔ f.exits = true ∨ leaves 0) ∧ (g.backEdge = true ↔ f.backEdge = true ∨ back 0)) ∧
      Tracks (fun k => leaves (k + 1)) (fun k => back (k + 1) ∧ f.kind ≠ .conditional) fs gs
  | _, _, _, _ => False

namespace Tracks
variable {leaves back leaves' back' : Nat → Prop} {fs gs hs : List LoopFrame}

theorem congr (hl : ∀ k, leaves k ↔ leaves' k) (hb : ∀ k, back k ↔ back' k) (h : Tracks leaves back fs gs) :
    Tracks leaves' back' fs gs := by
  obtain rfl : leaves = leaves' := funext fun k => propext (hl k)
  obtain rfl : back = back' := funext fun k => propext (hb k)
  exact h

theorem length (h : Tracks leaves back fs gs) : gs.length = fs.length := by
  induction fs generalizing gs leaves back with
  | nil =>
    cases gs with
    | nil => rfl
    | cons g gs => exact h.elim
  | cons f fs ih =>
    cases gs with
    | nil => exact h.elim
    | cons g gs => exact congrArg (· + 1) (ih h.2.2)

theorem refl (hl : ∀ k, ¬ leaves k) (hb : ∀ k, ¬ back k) : Tracks leaves back fs fs := by
  induction fs generalizing leaves back with
  | nil => trivial
  | cons f fs ih => exact ⟨rfl, fun _ => by simp [hl, hb], ih (fun k => hl (k + 1)) fun k h => hb (k + 1) h.1⟩

theorem trans (h : Tracks leaves back fs gs) (h' : Tracks leaves' back' gs hs) :
    Tracks (fun k => leaves k ∨ leaves' k) (fun k => back k ∨ back' k) fs hs := by
  induction fs generalizing gs hs leaves back leaves' back' with
  | nil =>
    cases gs with
    | cons g gs => exact h.elim
    | nil =>
    cases hs with
    | nil => trivial
    | cons k ks => exact h'.elim
  | cons f fs ih =>
    cases gs with
    | nil => exact h.elim
    | cons g gs =>
    cases hs with
    | nil => exact h'.elim
    | cons k ks =>
    obtain ⟨kind, first, rest⟩ := h
    obtain ⟨kind', first', rest'⟩ := h'
    refine ⟨kind'.trans kind, fun loop => ?_, ?_⟩
    · obtain ⟨exits, backEdge⟩ := first (kind' ▸ loop)
      obtain ⟨exits', backEdge'⟩ := first' loop
      exact ⟨by rw [exits', exits, or_assoc], by rw [backEdge', backEdge, or_assoc]⟩
    · rw [kind] at rest'
      exact (ih rest rest').congr (fun _ => Iff.rfl) fun _ => or_and_right.symm

theorem exit : Tracks (fun _ => True) (fun _ => False) fs (fs.map LoopFrame.markExit) := by
  have all (back : Nat → Prop) (hb : ∀ k, ¬ back k) : Tracks (fun _ => True) back fs (fs.map LoopFrame.markExit) := by
    induction fs generalizing back with
    | nil => trivial
    | cons f fs ih => exact ⟨rfl, fun _ => ⟨by simp [LoopFrame.markExit], by simp [LoopFrame.markExit, hb]⟩, ih _ fun k h => hb _ h.1⟩
  exact all _ fun _ => not_false

end Tracks

/-! ### Scans -/

namespace Flow

def labels : Flow → List Nat
  | jump l | jumpIf l => [l]
  | jumpTable ls d => d :: ls
  | _ => []

end Flow

namespace LoopScan
variable {s : LoopScan} {fs : List LoopFrame} {n l : Nat} {conditional : Bool}

def after (s : LoopScan) (b : Body) : LoopScan := (b.map Flow.ofInstr).foldl step s

/-- Whenever a label is looked up, it has a frame. -/
def FindsAll : LoopScan → List Flow → Prop
  | _, [] => True
  | s, f :: fs => (∀ l ∈ f.labels, l < s.frames.length) ∧ (s.step f).FindsAll fs

theorem findsAll_append {xs ys : List Flow} : s.FindsAll (xs ++ ys) ↔ s.FindsAll xs ∧ FindsAll (xs.foldl step s) ys := by
  induction xs generalizing s with
  | nil => exact ⟨fun h => ⟨trivial, h⟩, And.right⟩
  | cons x xs ih => rw [List.cons_append, FindsAll, FindsAll, ih, and_assoc, List.foldl_cons]

theorem branch_zero {f : LoopFrame} : (LoopScan.mk (f :: fs) n).branch 0 conditional =
    ⟨(if !conditional && f.kind == .loop then { f with backEdge := true } else f) :: fs, n⟩ := by
  simp [branch]

theorem branch_succ {f : LoopFrame} (h : l < fs.length) : (LoopScan.mk (f :: fs) n).branch (l + 1) conditional =
    ⟨f.markLoop :: ((LoopScan.mk fs n).branch l (conditional || f.kind == .conditional)).frames, n⟩ := by
  simp only [branch, List.drop_succ_cons, List.take_succ_cons, List.drop_eq_getElem_cons h, List.all_cons, List.map_cons,
    List.cons_append, Bool.not_or, Bool.and_assoc, bne]

theorem tracks_branch (h : l < fs.length) :
    Tracks (· < l) (fun k => k = l ∧ conditional = false) fs ((LoopScan.mk fs n).branch l conditional).frames := by
  induction l generalizing fs conditional with
  | zero =>
    cases fs with
    | nil => cases h
    | cons f fs =>
    rw [branch_zero]
    refine ⟨by split <;> rfl, fun loop => ?_, .refl nofun nofun⟩
    split
    · rename_i taken
      simp_all
    · rename_i other
      simp_all
  | succ l ih =>
    cases fs with
    | nil => cases h
    | cons f fs =>
    rw [branch_succ (Nat.lt_of_succ_lt_succ h)]
    have kind : f.markLoop.kind = f.kind := by
      unfold LoopFrame.markLoop
      split <;> rfl
    refine ⟨kind, fun loop => ?_, ?_⟩
    · have loop : f.kind = .loop := kind ▸ loop
      simp [LoopFrame.markLoop, loop]
    · refine (ih (Nat.lt_of_succ_lt_succ h)).congr (fun k => Nat.succ_lt_succ_iff.symm) fun k => ?_
      simp [and_assoc]

theorem branch_unbounded : (s.branch l conditional).unbounded = s.unbounded := by
  unfold branch
  split <;> rfl

theorem tracks_foldl_branch {ls : List Nat} (h : ∀ l ∈ ls, l < s.frames.length) :
    (ls.foldl (fun s l => s.branch l true) s).unbounded = s.unbounded ∧
      Tracks (fun k => ∃ l ∈ ls, k < l) (fun _ => False) s.frames (ls.foldl (fun s l => s.branch l true) s).frames := by
  induction ls generalizing s with
  | nil => exact ⟨rfl, .refl (by simp) fun _ => not_false⟩
  | cons l ls ih =>
    obtain ⟨first, others⟩ := List.forall_mem_cons.1 h
    have tracks : Tracks (· < l) (fun k => k = l ∧ true = false) s.frames (s.branch l true).frames := tracks_branch first
    obtain ⟨unbounded, rest⟩ := ih (s := s.branch l true) fun l' hl => tracks.length ▸ others l' hl
    refine ⟨unbounded.trans branch_unbounded, (tracks.trans rest).congr (fun k => ?_) fun k => ?_⟩
    · simp
    · simp

end LoopScan

/-! ### Effects -/

/-- What a part of a body does wherever it stands with `room` frames around it: it finds its labels, it counts so many loops, and it
tracks so many of the frames. -/
def Effects (b : Body) (room count : Nat) (leaves back : Nat → Prop) : Prop :=
  ∀ s : LoopScan, s.frames.length = room → s.FindsAll (b.map Flow.ofInstr) ∧ (s.after b).unbounded = s.unbounded + count ∧
    Tracks leaves back s.frames (s.after b).frames

namespace Effects
variable {b c : Body} {room m n : Nat} {leaves back leaves' back' : Nat → Prop}

theorem congr (h : Effects b room m leaves back) (count : m = n) (hl : ∀ k, leaves k ↔ leaves' k) (hb : ∀ k, back k ↔ back' k) :
    Effects b room n leaves' back' :=
  fun s hs => ⟨(h s hs).1, count ▸ (h s hs).2.1, (h s hs).2.2.congr hl hb⟩

theorem nil : Effects [] room 0 (fun _ => False) (fun _ => False) :=
  fun _ _ => ⟨trivial, rfl, .refl (fun _ => not_false) fun _ => not_false⟩

theorem append (hb : Effects b room m leaves back) (hc : Effects c room n leaves' back') :
    Effects (b ++ c) room (m + n) (fun k => leaves k ∨ leaves' k) (fun k => back k ∨ back' k) := by
  intro s hs
  obtain ⟨finds, count, tracks⟩ := hb s hs
  obtain ⟨finds', count', tracks'⟩ := hc (s.after b) (tracks.length.trans hs)
  have after : s.after (b ++ c) = (s.after b).after c := by rw [LoopScan.after, List.map_append, List.foldl_append]; rfl
  refine ⟨?_, ?_, after ▸ tracks.trans tracks'⟩
  · rw [List.map_append]
    exact LoopScan.findsAll_append.2 ⟨finds, finds'⟩
  · rw [after, count', count, Nat.add_assoc]

theorem single {i : Instr Nat} (labels : (Flow.ofInstr i).labels = i.branchLabels) (inScope : ∀ l ∈ i.branchLabels, l < room)
    (h : ∀ s : LoopScan, s.frames.length = room → (s.step (.ofInstr i)).unbounded = s.unbounded ∧
      Tracks leaves back s.frames (s.step (.ofInstr i)).frames) :
    Effects [i] room 0 leaves back := by
  intro s hs
  refine ⟨⟨?_, trivial⟩, (h s hs).1, (h s hs).2⟩
  rw [labels, hs]
  exact inScope

theorem plain {i : Instr Nat} (isPlain : i.isPlain = true) (inScope : ∀ l ∈ i.branchLabels, l < room) :
    Effects [i] room 0 (fun k => i.endsFunction = true ∨ ∃ l ∈ i.branchLabels, k < l) (fun k => i = .br k) := by
  have other (flow : Flow.ofInstr i = .other) (labels : i.branchLabels = []) (ends : i.endsFunction = false)
      (back : ∀ k, i ≠ .br k) : Effects [i] room 0 (fun k => i.endsFunction = true ∨ ∃ l ∈ i.branchLabels, k < l) (i = .br ·) := by
    refine single (by rw [flow, labels]; rfl) inScope fun s hs => ?_
    rw [flow]
    exact ⟨rfl, .refl (by simp [labels, ends]) back⟩
  have exit (flow : Flow.ofInstr i = .exit) (labels : i.branchLabels = []) (ends : i.endsFunction = true)
      (back : ∀ k, i ≠ .br k) : Effects [i] room 0 (fun k => i.endsFunction = true ∨ ∃ l ∈ i.branchLabels, k < l) (i = .br ·) := by
    refine single (by rw [flow, labels]; rfl) inScope fun s hs => ?_
    rw [flow]
    exact ⟨rfl, Tracks.exit.congr (by simp [ends]) (by simp [back])⟩
  cases i
  case block | otherwise | close => cases isPlain
  case br l =>
    refine single rfl inScope fun s hs => ⟨LoopScan.branch_unbounded, ?_⟩
    have found : l < s.frames.length := hs ▸ inScope l (List.mem_singleton_self l)
    refine (LoopScan.tracks_branch found).congr (fun k => ?_) fun k => ?_
    · simp [Instr.endsFunction, Instr.branchLabels]
    · simp [eq_comm]
  case brIf l =>
    refine single rfl inScope fun s hs => ⟨LoopScan.branch_unbounded, ?_⟩
    have found : l < s.frames.length := hs ▸ inScope l (List.mem_singleton_self l)
    refine (LoopScan.tracks_branch found).congr (fun k => ?_) fun k => ?_
    · simp [Instr.endsFunction, Instr.branchLabels]
    · simp
  case brTable ls d =>
    refine single rfl inScope fun s hs => ?_
    obtain ⟨unbounded, tracks⟩ := LoopScan.tracks_foldl_branch (s := s) fun l hl => hs ▸ inScope l hl
    refine ⟨unbounded, tracks.congr (fun k => ?_) fun k => ?_⟩
    · simp [Instr.endsFunction, Instr.branchLabels]
    · simp
  case ret | tailCall | tailCallIndirect | unreachable => exact exit rfl rfl rfl nofun
  all_goals exact other rfl rfl rfl nofun

def kindOf : BlockKind Nat → LoopFrameKind
  | .loop => .loop
  | .conditional => .conditional
  | _ => .block

/-- A construct counts itself if it is a loop that is to be counted, and it is in the way of a branch back if it is a conditional. -/
theorem construct (kind : BlockKind Nat) (type : BlockType Nat) {spins : Bool} (hspins : spins = true ↔ back 0 ∧ ¬ leaves 0)
    (h : Effects b (room + 1) m leaves back) :
    Effects (.block kind type :: (b ++ [.close])) room (m + if kind = .loop ∧ spins = true then 1 else 0)
      (fun k => leaves (k + 1)) (fun k => back (k + 1) ∧ kind ≠ .conditional) := by
  intro s hs
  have entered : s.step (.ofInstr (.block kind type)) = s.enter (kindOf kind) := by cases kind <;> rfl
  have isLoop : kindOf kind = .loop ↔ kind = .loop := by cases kind <;> simp [kindOf]
  have isConditional : kindOf kind = .conditional ↔ kind = .conditional := by cases kind <;> simp [kindOf]
  obtain ⟨finds, count, tracks⟩ := h (s.enter (kindOf kind)) (congrArg (· + 1) hs)
  have after : s.after (.block kind type :: (b ++ [.close])) = ((s.enter (kindOf kind)).after b).step .leave := by
    rw [LoopScan.after, List.map_cons, List.map_append, List.foldl_cons, List.foldl_append, entered]
    rfl
  rw [after]
  generalize (s.enter (kindOf kind)).after b = inside at count tracks
  obtain ⟨frames, unbounded⟩ := inside
  cases frames with
  | nil => exact tracks.elim
  | cons g gs =>
  obtain ⟨same, own, around⟩ := tracks
  refine ⟨?_, ?_, around.congr (fun _ => Iff.rfl) fun k => and_congr_right fun _ => not_congr isConditional⟩
  · rw [List.map_cons, List.map_append]
    refine ⟨?_, entered ▸ LoopScan.findsAll_append.2 ⟨finds, nofun, trivial⟩⟩
    cases kind <;> exact nofun
  · have counted : g.isUnbounded = true ↔ kind = .loop ∧ spins = true := by
      have same : g.kind = kindOf kind := same
      rw [LoopFrame.isUnbounded, Bool.and_eq_true, Bool.and_eq_true, beq_iff_eq, same, isLoop, and_assoc]
      refine and_congr_right fun loop => ?_
      obtain ⟨exits, backEdge⟩ := own (same.trans (isLoop.2 loop))
      rw [Bool.not_eq_true', ← Bool.not_eq_true, exits, backEdge, hspins]
      simp [LoopFrame.new]
    have count : unbounded = s.unbounded + m := count
    show (if g.isUnbounded = true then unbounded + 1 else unbounded) = _
    simp only [counted, count]
    split <;> omega

theorem constructAppend (kind : BlockKind Nat) (type : BlockType Nat) {spins : Bool} (hspins : spins = true ↔ back 0 ∧ ¬ leaves 0)
    (h : Effects b (room + 1) m leaves back) (rest : Effects c room n leaves' back') :
    Effects (.block kind type :: (b ++ .close :: c)) room ((m + if kind = .loop ∧ spins = true then 1 else 0) + n)
      (fun k => leaves (k + 1) ∨ leaves' k) (fun k => (back (k + 1) ∧ kind ≠ .conditional) ∨ back' k) := by
  have effects := (h.construct kind type hspins).append rest
  rwa [List.cons_append, List.append_assoc, List.singleton_append] at effects

theorem otherwise : Effects [.otherwise] room 0 (fun _ => False) (fun _ => False) :=
  single rfl nofun fun _ _ => ⟨rfl, .refl (fun _ => not_false) fun _ => not_false⟩

end Effects

theorem effects_listing {t : Tree} {room : Nat} (inScope : t.ScopedIn room) :
    Effects t.listing room (t.loops.countP (·.Spins)) t.LeavesPast t.JumpsBack := by
  have spins (t : Tree) : decide t.Spins = true ↔ t.JumpsBack 0 ∧ ¬ t.LeavesPast 0 := decide_eq_true_iff
  induction t generalizing room with
  | done =>
    exact Effects.nil.congr rfl (fun _ => (iff_false_intro Tree.not_leavesPast_done).symm)
      fun _ => (iff_false_intro Tree.not_jumpsBack_done).symm
  | plain i isPlain rest ih =>
    obtain ⟨here, below⟩ := Tree.scopedIn_plain.1 inScope
    exact ((Effects.plain isPlain here).append (ih below)).congr (Nat.zero_add _) (fun _ => Tree.leavesPast_plain.symm)
      fun _ => Tree.jumpsBack_plain.symm
  | block kind type isBlock inner rest ihInner ihRest =>
    obtain ⟨inside, below⟩ := Tree.scopedIn_block.1 inScope
    refine ((ihInner inside).constructAppend kind type (spins inner) (ihRest below)).congr ?_
      (fun _ => Tree.leavesPast_block.symm) fun _ => ?_
    · rw [Tree.loops, List.countP_append, List.countP_append]
      by_cases loop : kind = .loop
      · simp only [loop, true_and, if_true, List.countP_singleton]
        omega
      · simp [loop]
    · rw [Tree.jumpsBack_block, and_iff_left isBlock]
  | when type yes rest ihYes ihRest =>
    obtain ⟨inside, below⟩ := Tree.scopedIn_when.1 inScope
    refine ((ihYes inside).constructAppend .conditional type (spins yes) (ihRest below)).congr ?_
      (fun _ => Tree.leavesPast_when.symm) fun _ => ?_
    · simp [Tree.loops]
    · simp [Tree.jumpsBack_when]
  | choose type yes no rest ihYes ihNo ihRest =>
    obtain ⟨⟨first, second⟩, below⟩ := Tree.scopedIn_choose.1 inScope
    -- the arms are no loop, so it does not matter whether they would spin
    have arms := (ihYes first).append (Effects.otherwise.append (ihNo second))
    obtain ⟨any, hany⟩ : ∃ any : Bool, any = true ↔ (yes.JumpsBack 0 ∨ False ∨ no.JumpsBack 0) ∧
        ¬ (yes.LeavesPast 0 ∨ False ∨ no.LeavesPast 0) := by
      classical exact ⟨decide _, decide_eq_true_iff⟩
    have effects := arms.constructAppend .conditional type hany (ihRest below)
    rw [List.append_assoc, List.cons_append, List.nil_append] at effects
    refine effects.congr ?_ (fun _ => ?_) fun _ => ?_
    · simp [Tree.loops, Nat.add_assoc]
    · simp [Tree.leavesPast_choose]
    · simp [Tree.jumpsBack_choose]

/-- The scan counts the loops that spin, no branch lacks its frame, and in the end no frame is left. -/
theorem unboundedLoops_body (t : Tree) (inScope : t.Scoped) :
    unboundedLoops t.body = t.loops.countP (·.Spins) ∧ LoopScan.start.FindsAll (t.body.map Flow.ofInstr) ∧
      (LoopScan.run (t.body.map Flow.ofInstr)).frames = [] := by
  obtain ⟨finds, count, tracks⟩ := effects_listing inScope .start rfl
  have after : LoopScan.run (t.body.map Flow.ofInstr) = (LoopScan.start.after t.listing).step .leave := by
    rw [LoopScan.run, Tree.body, List.map_append, List.foldl_append]
    rfl
  rw [unboundedLoops, after, Tree.body, List.map_append]
  -- the frame of the function is no loop
  obtain ⟨f, hf, kind⟩ : ∃ f, (LoopScan.start.after t.listing).frames = [f] ∧ f.kind = .block := by
    revert tracks
    cases (LoopScan.start.after t.listing).frames with
    | nil => exact False.elim
    | cons f fs =>
      cases fs with
      | nil => exact fun tracks => ⟨f, rfl, tracks.1⟩
      | cons g gs => exact fun tracks => tracks.2.2.elim
  refine ⟨?_, LoopScan.findsAll_append.2 ⟨finds, nofun, trivial⟩, ?_⟩
  · have count : (LoopScan.start.after t.listing).unbounded = t.loops.countP (·.Spins) := count.trans (Nat.zero_add _)
    simp [LoopScan.step, hf, LoopFrame.isUnbounded, kind, count]
  · simp [LoopScan.step, hf]

/-- A loop around a block that is left early: the branch out of the block does not keep the loop from being counted. -/
theorem unboundedLoops_body_skipped :
    let inner : Tree := .plain (.localGet 0) rfl (.plain (.brIf 0) rfl (.plain (.br 1) rfl .done))
    let t : Tree := .block .loop .empty nofun (.block .plain .empty nofun inner .done) .done
    unboundedLoops t.body = 1 := by
  intro inner t
  have inScope : t.Scoped := by
    simp [t, inner, Tree.Scoped, Tree.ScopedIn, Tree.placed, Placed.within, Instr.branchLabels]
  obtain ⟨count, -, -⟩ := unboundedLoops_body t inScope
  rw [count]
  decide

end StrategyHost.Sanitizer
