import StrategyHost.Proofs.Sanitizer.Spinning
import StrategyHost.Proofs.Wasm.Checked

/-! # Ways out of loops that are counted

`Tree.Leaves` says in which ways control can leave a tree if every condition is free to go either way. Main statement:
`leaves_of_counts`, a loop that the scan counts is left in no way that the scan looks for. What remains is to fall through at its
end, where its way back can be avoided (`Tree.Holds`), and the ways that the scan does not look for (`Way.IsOverlooked`). -/

namespace StrategyHost.Wasm

/-! ### Control -/

namespace Instr

def targets : Instr Nat → List Nat
  | .br l | .brIf l | .brOnNull l | .brOnNonNull l | .heap (.brOnCast l _ _ _) => [l]
  | .brTable ls d => d :: ls
  | _ => []

def continues : Instr Nat → Bool
  | .br _ | .brTable _ _ | .ret | .tailCall _ | .tailCallIndirect _ _ | .tailCallRef _ | .unreachable | .throw _ | .throwRef => false
  | _ => true

def returns : Instr Nat → Bool
  | .ret | .tailCall _ | .tailCallIndirect _ _ | .tailCallRef _ => true
  | _ => false

def raises : Instr Nat → Bool
  | .throw _ | .throwRef | .call _ | .callIndirect _ _ | .callRef _ => true
  | _ => false

end Instr

/-- How control leaves a tree. Labels are those of the constructs around the tree. -/
inductive Way where
  | through
  | branch (i : Instr Nat) (label : Nat)
  /-- The branch of a handler. -/
  | caught (label : Nat)
  | ret (i : Instr Nat)
  | raise

namespace Way

/-- What leaving the inside of a construct is to what is around the construct, if it leaves the construct too. -/
def outward? : Way → Option Way
  | branch i (l + 1) => some (branch i l)
  | caught (l + 1) => some (caught l)
  | ret i => some (ret i)
  | raise => some raise
  | _ => none

def IsOwn : Way → Prop
  | branch _ l | caught l => l = 0
  | _ => False

/-- Whether control goes on behind a construct. The label of a loop is its start. -/
def EndsIn (kind : BlockKind Nat) (w : Way) : Prop := w = through ∨ kind ≠ .loop ∧ w.IsOwn

/-- Ways that the scan does not look for: by `br_on_null`, `br_on_non_null`, `br_on_cast` or `return_call_ref`, or to the label of a
handler. -/
def IsOverlooked : Way → Prop
  | branch i _ => i.branchLabels = []
  | ret i => i.endsFunction = false
  | caught _ => True
  | _ => False

end Way

namespace Tree

/-- A tree begins with a construct, with what is inside of one of its arms and what follows. -/
inductive Enters : Tree → BlockKind Nat → Tree → Tree → Prop
  | block {kind : BlockKind Nat} {type : BlockType Nat} {isBlock : kind ≠ .conditional} {inner rest : Tree} :
      Enters (block kind type isBlock inner rest) kind inner rest
  | when {type : BlockType Nat} {yes rest : Tree} : Enters (when type yes rest) .conditional yes rest
  | whenNot {type : BlockType Nat} {yes rest : Tree} : Enters (when type yes rest) .conditional done rest
  | yes {type : BlockType Nat} {yes no rest : Tree} : Enters (choose type yes no rest) .conditional yes rest
  | no {type : BlockType Nat} {yes no rest : Tree} : Enters (choose type yes no rest) .conditional no rest

/-- The ways in which control can leave a tree. Every condition may go either way, a branch through a table to any of its labels, and
an exception may be one that any of the handlers catches. -/
inductive Leaves : Tree → Way → Prop
  | done : Leaves done .through
  | next {i : Instr Nat} {h : i.isPlain = true} {rest : Tree} {w : Way} (continues : i.continues = true) (hw : Leaves rest w) :
      Leaves (plain i h rest) w
  | branch {i : Instr Nat} {h : i.isPlain = true} {rest : Tree} {l : Nat} (target : l ∈ i.targets) :
      Leaves (plain i h rest) (.branch i l)
  | ret {i : Instr Nat} {h : i.isPlain = true} {rest : Tree} (returns : i.returns = true) : Leaves (plain i h rest) (.ret i)
  | raise {i : Instr Nat} {h : i.isPlain = true} {rest : Tree} (raises : i.raises = true) : Leaves (plain i h rest) .raise
  | out {t inner rest : Tree} {kind : BlockKind Nat} {v w : Way} (enters : t.Enters kind inner rest) (hv : Leaves inner v)
      (outward : v.outward? = some w) : Leaves t w
  | behind {t inner rest : Tree} {kind : BlockKind Nat} {v w : Way} (enters : t.Enters kind inner rest) (hv : Leaves inner v)
      (ends : v.EndsIn kind) (hw : Leaves rest w) : Leaves t w
  | again {t inner rest : Tree} {v w : Way} (enters : t.Enters .loop inner rest) (hv : Leaves inner v) (own : v.IsOwn)
      (hw : Leaves t w) : Leaves t w
  | caught {t inner rest : Tree} {cs : List (Catch Nat)} {c : Catch Nat} (enters : t.Enters (.handler cs) inner rest)
      (hv : Leaves inner .raise) (hc : c ∈ cs) : Leaves t (.caught c.label)

def loop (type : BlockType Nat) (inner : Tree) : Tree := block .loop type nofun inner done

/-- Somewhere in the tree, not within a conditional, stands the branch to the construct number `k` around the tree, and control
cannot get past it by a branch to the end of a construct that it is in. -/
def Holds : Tree → Nat → Prop
  | done, _ => False
  | plain i _ rest, k => i = .br k ∨ rest.Holds k
  | block kind _ _ inner rest, k => (inner.Holds (k + 1) ∧ (kind = .loop ∨ ∀ v, inner.Leaves v → ¬ v.IsOwn)) ∨ rest.Holds k
  | when _ _ rest, k => rest.Holds k
  | choose _ _ _ rest, k => rest.Holds k

variable {t inner rest : Tree} {kind : BlockKind Nat} {type : BlockType Nat} {v w : Way}

theorem Leaves.not_holds (h : t.Leaves w) (through : w = .through) (k : Nat) : ¬ t.Holds k := by
  induction h generalizing k with
  | done => exact id
  | @next i _ rest w continues hw ih =>
    rintro (rfl | held)
    · cases continues
    · exact ih through k held
  | branch target => cases through
  | ret returns => cases through
  | raise raises => cases through
  | @out t inner rest kind v w enters hv outward ih =>
    subst through
    rcases v with _ | ⟨i, _ | l⟩ | ⟨_ | l⟩ | i | _ <;> cases outward
  | @behind t inner rest kind v w enters hv ends hw ihInner ihRest =>
    intro held
    cases enters with
    | block =>
      rcases held with ⟨held, unavoidable⟩ | held
      · rcases ends with fallen | ⟨notLoop, own⟩
        · exact ihInner fallen (k + 1) held
        · exact unavoidable.elim notLoop fun unavoidable => unavoidable v hv own
      · exact ihRest through k held
    | _ => exact ihRest through k held
  | again enters hv own hw ihInner ih => exact ih through k
  | caught enters hv hc ih => cases through

theorem leaves_done (h : done.Leaves w) : w = .through := by
  cases h with
  | done => rfl
  | out enters | behind enters | again enters | caught enters => cases enters

/-- Control leaves a loop as it leaves the inside of the loop, on whichever pass. -/
theorem leaves_loop (h : (loop type inner).Leaves w) :
    (w = .through ∧ inner.Leaves .through) ∨ ∃ v, inner.Leaves v ∧ v.outward? = some w := by
  generalize ht : loop type inner = t at h
  induction h with
  | done | next | branch | ret | raise => cases ht
  | out enters hv outward =>
    subst ht
    cases enters
    exact .inr ⟨_, hv, outward⟩
  | behind enters hv ends hw =>
    subst ht
    cases enters
    rcases ends with rfl | ⟨notLoop, -⟩
    · exact .inl ⟨leaves_done hw, hv⟩
    · exact absurd rfl notLoop
  | again enters hv own hw ihInner ih => exact ih ht
  | caught enters hv hc =>
    subst ht
    cases enters

end Tree

/-! ### Where control leaves -/

def Way.ComesFrom (ps : List Placed) : Way → Prop
  | branch i l => ∃ p ∈ ps, p.instr = i ∧ p.depth + l ∈ i.targets
  | ret i => ∃ p ∈ ps, p.instr = i
  | _ => True

namespace Way.ComesFrom
variable {ps qs : List Placed} {v w : Way}

theorem mono (h : w.ComesFrom ps) (sub : ∀ p ∈ ps, p ∈ qs) : w.ComesFrom qs := by
  cases w with
  | branch i l =>
    obtain ⟨p, hp, target⟩ := h
    exact ⟨p, sub p hp, target⟩
  | ret i =>
    obtain ⟨p, hp, returns⟩ := h
    exact ⟨p, sub p hp, returns⟩
  | _ => trivial

theorem outward {conditional : Bool} (h : v.ComesFrom ps) (outward : v.outward? = some w)
    (sub : ∀ p ∈ ps, p.within conditional ∈ qs) : w.ComesFrom qs := by
  rcases v with _ | ⟨i, _ | l⟩ | ⟨_ | l⟩ | i | _ <;> cases outward <;> try trivial
  case branch.succ =>
    obtain ⟨p, hp, rfl, target⟩ := h
    exact ⟨_, sub p hp, rfl, by rwa [Placed.within, Nat.add_assoc, Nat.add_comm 1]⟩
  case ret =>
    obtain ⟨p, hp, rfl⟩ := h
    exact ⟨_, sub p hp, rfl⟩

end Way.ComesFrom

namespace Tree
variable {t inner rest : Tree} {kind : BlockKind Nat} {type : BlockType Nat} {v w : Way}

theorem Enters.placed (h : t.Enters kind inner rest) :
    (∃ conditional, ∀ p ∈ inner.placed, p.within conditional ∈ t.placed) ∧ ∀ p ∈ rest.placed, p ∈ t.placed := by
  cases h with
  | block | when =>
    exact ⟨⟨_, fun p hp => List.mem_append_left _ (List.mem_map_of_mem hp)⟩, fun p hp => List.mem_append_right _ hp⟩
  | whenNot => exact ⟨⟨true, List.forall_mem_nil _⟩, fun p hp => List.mem_append_right _ hp⟩
  | yes =>
    exact ⟨⟨_, fun p hp => List.mem_append_left _ (List.mem_map_of_mem (List.mem_append_left _ hp))⟩,
      fun p hp => List.mem_append_right _ hp⟩
  | no =>
    exact ⟨⟨_, fun p hp => List.mem_append_left _ (List.mem_map_of_mem (List.mem_append_right _ hp))⟩,
      fun p hp => List.mem_append_right _ hp⟩

theorem Leaves.comesFrom (h : t.Leaves w) : w.ComesFrom t.placed := by
  induction h with
  | done | raise | caught => trivial
  | next continues hw ih => exact ih.mono fun p hp => List.mem_cons_of_mem _ hp
  | branch target => exact ⟨_, List.mem_cons_self .., rfl, (Nat.zero_add _).symm ▸ target⟩
  | ret returns => exact ⟨_, List.mem_cons_self .., rfl⟩
  | out enters hv outward ih =>
    obtain ⟨⟨conditional, sub⟩, -⟩ := enters.placed
    exact ih.outward outward sub
  | behind enters hv ends hw ihInner ihRest => exact ihRest.mono enters.placed.2
  | again enters hv own hw ihInner ih => exact ih

/-- Nothing leaves a loop that spins in a way that the scan looks for. -/
theorem Spins.isOverlooked (spins : inner.Spins) (h : inner.Leaves v) (outward : v.outward? = some w) :
    w = .raise ∨ w.IsOverlooked := by
  obtain ⟨-, stays⟩ := spins
  have source := h.comesFrom
  rcases v with _ | ⟨i, _ | l⟩ | ⟨_ | l⟩ | i | _ <;> cases outward
  case branch.succ =>
    obtain ⟨p, hp, rfl, target⟩ := source
    refine .inr (Classical.byContradiction fun seen => stays ⟨p, hp, .inr ⟨p.depth + (l + 1), ?_, by omega⟩⟩)
    have same : p.instr.branchLabels = [] ∨ p.instr.branchLabels = p.instr.targets := by
      cases p.instr <;> first | exact .inl rfl | exact .inr rfl
    exact (same.resolve_left seen) ▸ target
  case caught.succ => exact .inr trivial
  case ret =>
    obtain ⟨p, hp, rfl⟩ := source
    refine .inr (Classical.byContradiction fun seen => stays ⟨p, hp, .inl ?_⟩)
    exact eq_true_of_ne_false seen
  case raise => exact .inl rfl

end Tree

end StrategyHost.Wasm

namespace StrategyHost.Sanitizer
open Wasm

/-! ### Counting -/

namespace LoopScan

/-- From a state on, the instruction number `n` adds to the count. -/
def CountsAt (s : LoopScan) (b : Body) (n : Nat) : Prop := (s.after (b.take n)).unbounded < (s.after (b.take (n + 1))).unbounded

theorem after_append (s : LoopScan) (b c : Body) : s.after (b ++ c) = (s.after b).after c := by
  rw [after, after, after, List.map_append, List.foldl_append]

theorem countsAt_append {s : LoopScan} {b c : Body} {n : Nat} (h : s.CountsAt (b ++ c) n) :
    s.CountsAt b n ∨ ∃ m, n = b.length + m ∧ (s.after b).CountsAt c m := by
  rcases Nat.lt_or_ge n b.length with within | past
  · rw [CountsAt, List.take_append_of_le_length within, List.take_append_of_le_length (Nat.le_of_lt within)] at h
    exact .inl h
  · obtain ⟨m, rfl⟩ := Nat.exists_eq_add_of_le past
    rw [CountsAt, Nat.add_assoc, List.take_length_add_append, List.take_length_add_append, after_append, after_append] at h
    exact .inr ⟨m, rfl, h⟩

end LoopScan

/-- The instruction number `n` closes a loop that spins. -/
def SpinsAt (b : Body) (n : Nat) : Prop :=
  ∃ (before : Body) (type : BlockType Nat) (inner : Tree) (after : Body),
    b = before ++ .block .loop type :: (inner.listing ++ .close :: after) ∧ n = before.length + 1 + inner.listing.length ∧ inner.Spins

section
variable {b c : Body} {n room count : Nat} {leaves back : Nat → Prop}

theorem SpinsAt.append_right (h : SpinsAt b n) : SpinsAt (b ++ c) n := by
  obtain ⟨before, type, inner, after, rfl, rfl, spins⟩ := h
  exact ⟨before, type, inner, after ++ c, by simp, rfl, spins⟩

theorem SpinsAt.append_left (h : SpinsAt b n) : SpinsAt (c ++ b) (c.length + n) := by
  obtain ⟨before, type, inner, after, rfl, rfl, spins⟩ := h
  exact ⟨c ++ before, type, inner, after, by simp, by simp; omega, spins⟩

/-- With `room` frames around it, a part of a body adds to the count only where it closes a loop that spins. -/
def CountsSpins (b : Body) (room : Nat) : Prop := ∀ (s : LoopScan) (n : Nat), s.frames.length = room → s.CountsAt b n → SpinsAt b n

namespace CountsSpins

theorem append (effects : Effects b room count leaves back) (hb : CountsSpins b room) (hc : CountsSpins c room) :
    CountsSpins (b ++ c) room := by
  intro s n hs counts
  rcases LoopScan.countsAt_append counts with counts | ⟨m, rfl, counts'⟩
  · exact (hb s n hs counts).append_right
  · obtain ⟨-, -, tracks⟩ := effects s hs
    exact (hc (s.after b) m (tracks.length.trans hs) counts').append_left

theorem nil : CountsSpins [] room := by
  intro s n hs counts
  rw [LoopScan.CountsAt, List.take_nil, List.take_nil] at counts
  exact absurd counts (Nat.lt_irrefl _)

theorem single {i : Instr Nat} (h : ∀ s : LoopScan, s.frames.length = room → (s.step (.ofInstr i)).unbounded = s.unbounded) :
    CountsSpins [i] room := by
  intro s n hs counts
  cases n with
  | zero => exact absurd (h s hs) (Nat.ne_of_gt counts)
  | succ n => exact absurd counts (by simp [LoopScan.CountsAt])

theorem construct (kind : BlockKind Nat) (type : BlockType Nat) (effects : Effects b (room + 1) count leaves back)
    (inside : CountsSpins b (room + 1)) (spins : kind = .loop → back 0 ∧ ¬ leaves 0 → ∃ t : Tree, b = t.listing ∧ t.Spins) :
    CountsSpins (.block kind type :: (b ++ [.close])) room := by
  intro s n hs counts
  have entered : s.after [.block kind type] = s.enter (Effects.kindOf kind) := by cases kind <;> rfl
  have hs' : (s.enter (Effects.kindOf kind)).frames.length = room + 1 := congrArg (· + 1) hs
  rcases LoopScan.countsAt_append (b := [.block kind type]) counts with opening | ⟨m, rfl, later⟩
  · have opens : CountsSpins [.block kind type] room := single fun s _ => by cases kind <;> rfl
    exact (opens s n hs opening).append_right
  rw [entered] at later
  rcases LoopScan.countsAt_append later with within | ⟨k, rfl, closing⟩
  · exact SpinsAt.append_left (c := [.block kind type]) (inside _ m hs' within).append_right
  -- the count of the whole construct is greater than that of its inside
  obtain ⟨spinning, hspinning⟩ : ∃ spinning : Bool, spinning = true ↔ back 0 ∧ ¬ leaves 0 := by
    classical exact ⟨decide _, decide_eq_true_iff⟩
  obtain ⟨-, whole, -⟩ := effects.construct kind type hspinning s hs
  obtain ⟨-, part, -⟩ := effects _ hs'
  obtain rfl : k = 0 := by
    cases k with
    | zero => rfl
    | succ k => exact absurd closing (by simp [LoopScan.CountsAt])
  have rises : ((s.enter (Effects.kindOf kind)).after b).unbounded < (s.after (.block kind type :: (b ++ [.close]))).unbounded := by
    rw [← List.singleton_append, LoopScan.after_append, LoopScan.after_append, entered]
    exact closing
  rw [whole, part] at rises
  have counted : kind = .loop ∧ spinning = true := Decidable.byContradiction fun not => by
    rw [if_neg not] at rises
    exact Nat.lt_irrefl _ rises
  obtain ⟨rfl, spin⟩ := counted
  obtain ⟨t, rfl, tSpins⟩ := spins rfl (hspinning.1 spin)
  exact ⟨[], type, t, [], rfl, by simp, tSpins⟩

theorem constructAppend (kind : BlockKind Nat) (type : BlockType Nat) (effects : Effects b (room + 1) count leaves back)
    (inside : CountsSpins b (room + 1)) (spins : kind = .loop → back 0 ∧ ¬ leaves 0 → ∃ t : Tree, b = t.listing ∧ t.Spins)
    (rest : CountsSpins c room) : CountsSpins (.block kind type :: (b ++ .close :: c)) room := by
  obtain ⟨spinning, hspinning⟩ : ∃ spinning : Bool, spinning = true ↔ back 0 ∧ ¬ leaves 0 := by
    classical exact ⟨decide _, decide_eq_true_iff⟩
  have both := append (effects.construct kind type hspinning) (construct kind type effects inside spins) rest
  rwa [List.cons_append, List.append_assoc, List.singleton_append] at both

end CountsSpins

theorem countsSpins_listing {t : Tree} (inScope : t.ScopedIn room) : CountsSpins t.listing room := by
  induction t generalizing room with
  | done => exact .nil
  | plain i isPlain rest ih =>
    obtain ⟨here, below⟩ := Tree.scopedIn_plain.1 inScope
    have effects := Effects.plain isPlain here
    exact .append effects (.single fun s hs => (effects s hs).2.1) (ih below)
  | block kind type isBlock inner rest ihInner ihRest =>
    obtain ⟨inside, below⟩ := Tree.scopedIn_block.1 inScope
    exact .constructAppend kind type (effects_listing inside) (ihInner inside) (fun _ spins => ⟨inner, rfl, spins⟩) (ihRest below)
  | when type yes rest ihYes ihRest =>
    obtain ⟨inside, below⟩ := Tree.scopedIn_when.1 inScope
    exact .constructAppend .conditional type (effects_listing inside) (ihYes inside) nofun (ihRest below)
  | choose type yes no rest ihYes ihNo ihRest =>
    obtain ⟨⟨first, second⟩, below⟩ := Tree.scopedIn_choose.1 inScope
    have otherwise : CountsSpins [.otherwise] (room + 1) := .single fun _ _ => rfl
    have arms := (ihYes first).append (effects_listing first) (otherwise.append Effects.otherwise (ihNo second))
    have effects := (effects_listing first).append (Effects.otherwise.append (effects_listing second))
    have whole := CountsSpins.constructAppend .conditional type effects arms nofun (ihRest below)
    rwa [List.append_assoc, List.append_assoc, List.singleton_append] at whole

def Counts (b : Body) (n : Nat) : Prop := LoopScan.start.CountsAt b n

theorem spinsAt_of_counts {t : Tree} (inScope : t.Scoped) (h : Counts t.body n) : SpinsAt t.body n := by
  rcases LoopScan.countsAt_append h with within | ⟨m, rfl, closing⟩
  · exact (countsSpins_listing inScope .start n rfl within).append_right
  -- the frame of the function is no loop
  obtain ⟨count, -, -⟩ := unboundedLoops_body t inScope
  obtain ⟨-, part, -⟩ := effects_listing inScope .start rfl
  have whole : ((LoopScan.start.after t.listing).after [.close]).unbounded = (LoopScan.start.after t.listing).unbounded := by
    rw [← LoopScan.after_append, part]
    exact count.trans (Nat.zero_add _).symm
  cases m with
  | zero => exact absurd whole (Nat.ne_of_gt closing)
  | succ m => exact absurd closing (by simp [LoopScan.CountsAt])

end

/-- A loop of a valid body that is counted has no way out but the end of an exception, a way that the scan does not look for, or its
own end, and the last only if control can get past its way back. -/
theorem leaves_of_counts {c : Context} {results : List (ValType Nat)} {params n : Nat} {b : Body}
    (valid : c.checkBody results params b = .ok ()) (counts : Counts b n) :
    ∃ (before : Body) (type : BlockType Nat) (inner : Tree) (after : Body),
      b = before ++ .block .loop type :: (inner.listing ++ .close :: after) ∧ n = before.length + 1 + inner.listing.length ∧
        ∀ w, (Tree.loop type inner).Leaves w → w = .raise ∨ w.IsOverlooked ∨ w = .through ∧ ¬ inner.Holds 0 := by
  obtain ⟨t, inScope, rfl⟩ := wellNested_iff.1 (c.wellNested_of_checkBody valid)
  obtain ⟨before, type, inner, after, hb, hn, spins⟩ := spinsAt_of_counts inScope counts
  refine ⟨before, type, inner, after, hb, hn, fun w leaves => ?_⟩
  rcases Tree.leaves_loop leaves with ⟨rfl, falls⟩ | ⟨v, hv, outward⟩
  · exact .inr (.inr ⟨rfl, falls.not_holds rfl 0⟩)
  · rcases spins.isOverlooked hv outward with raise | overlooked
    · exact .inl raise
    · exact .inr (.inl overlooked)

/-- The loop that does nothing but go back to its start. -/
theorem leaves_of_counts_empty :
    let c : Context := ⟨.sandbox, .empty, #[], #[], #[], #[], 0, #[], #[], 0, none, #[], [], false⟩
    let b : Body := [.block .loop .empty, .br 0, .close, .close]
    c.checkBody [] 0 b = .ok () ∧ Counts b 2 ∧ ∃ (before : Body) (type : BlockType Nat) (inner : Tree) (after : Body),
      b = before ++ .block .loop type :: (inner.listing ++ .close :: after) ∧ 2 = before.length + 1 + inner.listing.length ∧
        ∀ w, (Tree.loop type inner).Leaves w → w = .raise ∨ w.IsOverlooked ∨ w = .through ∧ ¬ inner.Holds 0 := by
  intro c b
  have valid : c.checkBody [] 0 b = .ok () := by rfl
  have counts : Counts b 2 := by
    unfold Counts LoopScan.CountsAt
    decide
  exact ⟨valid, counts, leaves_of_counts valid counts⟩

/-- A loop that is counted although it can be left: the branch in the inner block goes past the way back. -/
theorem not_leaves_of_counts :
    ¬ ∀ (c : Context) (results : List (ValType Nat)) (params n : Nat) (b : Body), c.checkBody results params b = .ok () → Counts b n →
      ∀ (before : Body) (type : BlockType Nat) (inner : Tree) (after : Body),
        b = before ++ .block .loop type :: (inner.listing ++ .close :: after) → n = before.length + 1 + inner.listing.length →
          ∀ w, (Tree.loop type inner).Leaves w → w = .raise := by
  intro claim
  let c : Context := ⟨.sandbox, .empty, #[], #[], #[], #[], 0, #[], #[], 0, none, #[.i32], [], false⟩
  let block : Tree := .plain (.localGet 0) rfl (.plain (.brIf 0) rfl (.plain (.br 1) rfl .done))
  let inner : Tree := .block .plain .empty (by decide) block .done
  let b : Body := .block .loop .empty :: (inner.listing ++ [.close, .close])
  have valid : c.checkBody [] 1 b = .ok () := by rfl
  have counts : Counts b 6 := by
    unfold Counts LoopScan.CountsAt
    decide
  have leaves : inner.Leaves .through := by
    refine .behind .block (.next rfl (.branch (l := 0) ?_)) (.inr ⟨by decide, rfl⟩) .done
    decide
  cases claim c [] 1 6 b valid counts [] .empty inner [.close] rfl rfl .through (.behind .block leaves (.inl rfl) .done)

end StrategyHost.Sanitizer
