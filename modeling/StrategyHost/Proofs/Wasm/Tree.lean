import StrategyHost.Wasm.Module

/-! # Bodies as trees

A well nested body (`WellNested`) is the listing of a tree whose branches all name a construct around them (`wellNested_iff`). -/

namespace StrategyHost.Wasm

/-- Whether an instruction neither opens, divides nor closes a construct. -/
def Instr.isPlain : Instr Nat → Bool
  | .block _ _ | .otherwise | .close => false
  | _ => true

/-- The labels that `br`, `br_if` and `br_table` name, the default of a table first. -/
def Instr.branchLabels : Instr Nat → List Nat
  | .br l | .brIf l => [l]
  | .brTable ls d => d :: ls
  | _ => []

/-! ### Well nested bodies -/

/-- What is open around an instruction: a construct without arms, or an arm of a conditional. -/
inductive Opening where
  | block | conditional | alternative
deriving DecidableEq

/-- What an instruction that opens a construct leaves open. -/
def Opening.ofKind : BlockKind Nat → Opening
  | .conditional => conditional
  | _ => block

/-- A sequence in which whatever it opens is closed, and then what was open before, innermost first. Its branches name something
that is open. -/
inductive Closes : List Opening → Body → Prop
  | nil : Closes [] []
  | plain {o : Opening} {os : List Opening} {i : Instr Nat} {b : Body} (isPlain : i.isPlain = true)
      (inScope : ∀ l ∈ i.branchLabels, l < (o :: os).length) (rest : Closes (o :: os) b) : Closes (o :: os) (i :: b)
  | block {o : Opening} {os : List Opening} {kind : BlockKind Nat} {type : BlockType Nat} {b : Body}
      (rest : Closes (.ofKind kind :: o :: os) b) : Closes (o :: os) (.block kind type :: b)
  | otherwise {os : List Opening} {b : Body} (rest : Closes (.alternative :: os) b) : Closes (.conditional :: os) (.otherwise :: b)
  | close {o : Opening} {os : List Opening} {b : Body} (rest : Closes os b) : Closes (o :: os) (.close :: b)

def WellNested (b : Body) : Prop := Closes [.block] b

/-! ### Trees -/

/-- A sequence of instructions, in which a construct is one with what is inside. -/
inductive Tree where
  | done
  | plain (i : Instr Nat) (isPlain : i.isPlain = true) (rest : Tree)
  | block (kind : BlockKind Nat) (type : BlockType Nat) (isBlock : kind ≠ .conditional) (inner rest : Tree)
  | when (type : BlockType Nat) (yes rest : Tree)
  | choose (type : BlockType Nat) (yes no rest : Tree)

/-- A plain instruction, the number of the constructs around it, and whether a conditional is among them. -/
structure Placed where
  depth : Nat
  guarded : Bool
  instr : Instr Nat
deriving DecidableEq

def Placed.within (conditional : Bool) (p : Placed) : Placed := ⟨p.depth + 1, p.guarded || conditional, p.instr⟩

namespace Tree

def listing : Tree → Body
  | done => []
  | plain i _ rest => i :: rest.listing
  | block kind type _ inner rest => .block kind type :: (inner.listing ++ .close :: rest.listing)
  | when type yes rest => .block .conditional type :: (yes.listing ++ .close :: rest.listing)
  | choose type yes no rest => .block .conditional type :: (yes.listing ++ .otherwise :: (no.listing ++ .close :: rest.listing))

def body (t : Tree) : Body := t.listing ++ [.close]

def placed : Tree → List Placed
  | done => []
  | plain i _ rest => ⟨0, false, i⟩ :: rest.placed
  | block _ _ _ inner rest => inner.placed.map (·.within false) ++ rest.placed
  | when _ yes rest => yes.placed.map (·.within true) ++ rest.placed
  | choose _ yes no rest => (yes.placed ++ no.placed).map (·.within true) ++ rest.placed

def loops : Tree → List Tree
  | done => []
  | plain _ _ rest => rest.loops
  | block kind _ _ inner rest => (if kind = .loop then [inner] else []) ++ inner.loops ++ rest.loops
  | when _ yes rest => yes.loops ++ rest.loops
  | choose _ yes no rest => yes.loops ++ no.loops ++ rest.loops

/-- Every branch names one of the constructs around it, or one of `n` further ones. -/
def ScopedIn (n : Nat) (t : Tree) : Prop := ∀ p ∈ t.placed, ∀ l ∈ p.instr.branchLabels, l < p.depth + n

def Scoped (t : Tree) : Prop := t.ScopedIn 1

section
variable {t inner yes no rest : Tree} {n : Nat} {i : Instr Nat} {kind : BlockKind Nat} {type : BlockType Nat}

theorem scopedIn_done : done.ScopedIn n := List.forall_mem_nil _

theorem scopedIn_plain {h : i.isPlain = true} :
    (plain i h rest).ScopedIn n ↔ (∀ l ∈ i.branchLabels, l < n) ∧ rest.ScopedIn n := by
  simp only [ScopedIn, placed, List.forall_mem_cons, Nat.zero_add]

theorem scopedIn_within {ps : List Placed} {conditional : Bool} :
    (∀ p ∈ ps.map (·.within conditional), ∀ l ∈ p.instr.branchLabels, l < p.depth + n) ↔
      ∀ p ∈ ps, ∀ l ∈ p.instr.branchLabels, l < p.depth + (n + 1) := by
  simp only [List.forall_mem_map, Placed.within, Nat.add_assoc, Nat.add_comm 1]

theorem scopedIn_block {h : kind ≠ .conditional} :
    (block kind type h inner rest).ScopedIn n ↔ inner.ScopedIn (n + 1) ∧ rest.ScopedIn n := by
  simp only [ScopedIn, placed, List.forall_mem_append, scopedIn_within]

theorem scopedIn_when : (when type yes rest).ScopedIn n ↔ yes.ScopedIn (n + 1) ∧ rest.ScopedIn n := by
  simp only [ScopedIn, placed, List.forall_mem_append, scopedIn_within]

theorem scopedIn_choose :
    (choose type yes no rest).ScopedIn n ↔ (yes.ScopedIn (n + 1) ∧ no.ScopedIn (n + 1)) ∧ rest.ScopedIn n := by
  simp only [ScopedIn, placed, List.forall_mem_append, scopedIn_within]

end

end Tree

/-! ### From the one to the other -/

section
variable {o : Opening} {os : List Opening} {b : Body} {t : Tree}

theorem Closes.listing_append (inScope : t.ScopedIn (os.length + 1)) (h : Closes (o :: os) b) :
    Closes (o :: os) (t.listing ++ b) := by
  induction t generalizing o os b with
  | done => exact h
  | plain i isPlain rest ih =>
    obtain ⟨here, below⟩ := Tree.scopedIn_plain.1 inScope
    exact .plain isPlain here (ih below h)
  | block kind type isBlock inner rest ihInner ihRest =>
    obtain ⟨inside, below⟩ := Tree.scopedIn_block.1 inScope
    rw [Tree.listing, List.cons_append, List.append_assoc, List.cons_append]
    exact .block (ihInner inside (.close (ihRest below h)))
  | when type yes rest ihYes ihRest =>
    obtain ⟨inside, below⟩ := Tree.scopedIn_when.1 inScope
    rw [Tree.listing, List.cons_append, List.append_assoc, List.cons_append]
    exact .block (ihYes inside (.close (ihRest below h)))
  | choose type yes no rest ihYes ihNo ihRest =>
    obtain ⟨⟨first, second⟩, below⟩ := Tree.scopedIn_choose.1 inScope
    rw [Tree.listing, List.cons_append, List.append_assoc, List.cons_append, List.append_assoc, List.cons_append]
    exact .block (ihYes first (.otherwise (ihNo second (.close (ihRest below h)))))

/-- What stands after the tree that is open: its end, or the other arm if it is the first arm of a conditional. -/
inductive Follows : List Opening → Body → Prop
  | close {o : Opening} {os : List Opening} {b : Body} (rest : Closes os b) : Follows (o :: os) (.close :: b)
  | otherwise {os : List Opening} {b : Body} (rest : Closes (.alternative :: os) b) : Follows (.conditional :: os) (.otherwise :: b)

/-- The induction is on the length, as what follows a construct is not a part of the construct. -/
theorem Closes.exists_tree (h : Closes (o :: os) b) :
    ∃ (t : Tree) (after : Body), t.ScopedIn (os.length + 1) ∧ b = t.listing ++ after ∧ Follows (o :: os) after := by
  induction hn : b.length using Nat.strongRecOn generalizing o os b with
  | ind n ih =>
  subst hn
  cases h with
  | plain isPlain inScope rest =>
    obtain ⟨t, after, below, rfl, follows⟩ := ih _ (by simp) rest rfl
    exact ⟨.plain _ isPlain t, after, Tree.scopedIn_plain.2 ⟨inScope, below⟩, rfl, follows⟩
  | otherwise rest => exact ⟨.done, _, Tree.scopedIn_done, rfl, .otherwise rest⟩
  | close rest => exact ⟨.done, _, Tree.scopedIn_done, rfl, .close rest⟩
  | @block _ _ kind type _ opens =>
    obtain ⟨inner, after, inside, rfl, follows⟩ := ih _ (by simp) opens rfl
    generalize opened : Opening.ofKind kind = o' at follows
    cases follows with
    | close rest =>
      obtain ⟨t, after, below, rfl, follows⟩ := ih _ (by simp; omega) rest rfl
      by_cases conditional : kind = .conditional
      · subst conditional
        exact ⟨.when type inner t, after, Tree.scopedIn_when.2 ⟨inside, below⟩, by simp [Tree.listing], follows⟩
      · exact ⟨.block kind type conditional inner t, after, Tree.scopedIn_block.2 ⟨inside, below⟩, by simp [Tree.listing], follows⟩
    | otherwise rest =>
      obtain rfl : kind = .conditional := by cases kind <;> first | rfl | cases opened
      obtain ⟨other, after, second, rfl, follows⟩ := ih _ (by simp; omega) rest rfl
      cases follows with
      | close last =>
      obtain ⟨t, after, below, rfl, follows⟩ := ih _ (by simp; omega) last rfl
      exact ⟨.choose type inner other t, after, Tree.scopedIn_choose.2 ⟨⟨inside, second⟩, below⟩, by simp [Tree.listing], follows⟩

/-- The well nested bodies are those of the trees whose branches name something around them. -/
theorem wellNested_iff : WellNested b ↔ ∃ t : Tree, t.Scoped ∧ b = t.body := by
  constructor
  · intro h
    obtain ⟨t, after, inScope, rfl, follows⟩ := Closes.exists_tree h
    cases follows with
    | close rest =>
    cases rest
    exact ⟨t, inScope, rfl⟩
  · rintro ⟨t, inScope, rfl⟩
    exact Closes.listing_append inScope (.close .nil)

end

end StrategyHost.Wasm
