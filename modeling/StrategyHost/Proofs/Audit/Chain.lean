import StrategyHost.Audit.Chain

/-! # Accepted chains

`Continues` says which record may follow those before it, and a chain is accepted if every record of it does
(`verifyFrom_cons`). Main statement: `verifyChain_concat`, a chain is accepted with a record behind it just when it is accepted
and the record continues it. -/

namespace StrategyHost.Audit

/-- Whether a record may stand where `expected` is asked for: in its place and behind the right record, with its own hash. -/
structure Continues (expected : Option Expected) (s : Sealed) : Prop where
  linked : ∀ e, expected = some e → s.sequence = e.sequence ∧ s.prevHash = e.prevHash
  genesis : expected = none → s.sequence = 0 → s.prevHash = genesisHash
  intact : s.isIntact = true

/-- What the records behind `expected` ask of the next one. -/
def expectedAfter (expected : Option Expected) (rs : List Sealed) : Option Expected :=
  match rs.getLast? with
  | some s => some ⟨s.sequence + 1, s.hash⟩
  | none => expected

section Verify
variable {expected : Option Expected} {s : Sealed} {rs ts : List Sealed}

theorem expectedAfter_concat : expectedAfter expected (rs ++ [s]) = some ⟨s.sequence + 1, s.hash⟩ := by
  rw [expectedAfter, List.getLast?_concat]

theorem expectedAfter_cons : expectedAfter expected (s :: rs) = expectedAfter (some ⟨s.sequence + 1, s.hash⟩) rs := by
  cases rs with
  | nil => rfl
  | cons t rs => simp only [expectedAfter, List.getLast?_cons, Option.getD_some]

theorem continues_iff : Continues expected s ↔ findBreak expected s = none := by
  have conditions : Continues expected s ↔ (∀ e, expected = some e → s.sequence = e.sequence ∧ s.prevHash = e.prevHash) ∧
      (expected = none → s.sequence = 0 → s.prevHash = genesisHash) ∧ s.isIntact = true :=
    ⟨fun h => ⟨h.linked, h.genesis, h.intact⟩, fun ⟨linked, genesis, intact⟩ => ⟨linked, genesis, intact⟩⟩
  rw [conditions]
  cases expected with
  | none =>
    simp only [findBreak]
    split
    · rename_i h
      simp [h]
    · rename_i h
      split <;> simp_all
  | some e =>
    simp only [findBreak]
    split
    · simp_all
    split
    · simp_all
    split <;> simp_all

theorem verifyFrom_cons : verifyFrom expected (s :: rs) = .ok () ↔
    Continues expected s ∧ verifyFrom (some ⟨s.sequence + 1, s.hash⟩) rs = .ok () := by
  rw [verifyFrom, continues_iff]
  cases findBreak expected s with
  | some why => simp
  | none => simp

theorem verifyFrom_append : verifyFrom expected (rs ++ ts) = .ok () ↔
    verifyFrom expected rs = .ok () ∧ verifyFrom (expectedAfter expected rs) ts = .ok () := by
  induction rs generalizing expected with
  | nil => simp [verifyFrom, expectedAfter]
  | cons s rs ih => rw [List.cons_append, verifyFrom_cons, verifyFrom_cons, ih, expectedAfter_cons, and_assoc]

theorem verifyChain_eq_ok {n : Nat} : verifyChain rs = .ok n ↔ verifyFrom none rs = .ok () ∧ rs.length = n := by
  unfold verifyChain
  cases h : verifyFrom none rs with
  | error fault => simp [Except.map]
  | ok u => simp [Except.map]

/-- A chain is accepted with a record behind it just when it is accepted and the record continues it. -/
theorem verifyChain_concat {n : Nat} : verifyChain (rs ++ [s]) = .ok (n + 1) ↔
    verifyChain rs = .ok n ∧ Continues (expectedAfter none rs) s := by
  rw [verifyChain_eq_ok, verifyChain_eq_ok, verifyFrom_append, verifyFrom_cons, List.length_append, List.length_singleton,
    Nat.add_right_cancel_iff]
  simp only [verifyFrom, and_true]
  grind

theorem continues_ofRecord {n : UInt64} {p : String} (r : Record)
    (next : expectedAfter (some ⟨0, genesisHash⟩) rs = some ⟨n, p⟩) : Continues (expectedAfter none rs) (.ofRecord n p r) := by
  refine ⟨?_, ?_, beq_self_eq_true _⟩
  · intro e he
    unfold expectedAfter at he next
    cases hlast : rs.getLast? with
    | none => rw [hlast] at he; cases he
    | some t =>
      rw [hlast] at he next
      cases he
      cases next
      exact ⟨rfl, rfl⟩
  · intro first _
    unfold expectedAfter at first next
    cases hlast : rs.getLast? with
    | none => rw [hlast] at next; cases next; rfl
    | some t => rw [hlast] at first; cases first

end Verify

end StrategyHost.Audit
