import Mathlib.Data.List.Infix
import StrategyHost.Proofs.Audit.Chain

/-! # Rearranged chains

In a chain that is sealed from the genesis hash on, the place of a record is its sequence number (`getElem?_sequence`), so a
list of its records can only be accepted if they stand there side by side. Main statement: `verifyChain_rearranged_iff`, a list
of records of a chain is accepted just when it is a segment of the chain. -/

namespace StrategyHost.Audit

/-! ### Sealing -/

section Sealing
variable {n : UInt64} {i : ℕ} {p : String} {rs : List Record} {s : Sealed}

theorem length_sealAll : (sealAll n p rs).length = rs.length := by
  induction rs generalizing n p with
  | nil => rfl
  | cons r rs ih => rw [sealAll, List.length_cons, List.length_cons, ih]

theorem sequence_of_getElem? (h : (sealAll n p rs)[i]? = some s) : s.sequence = n + .ofNat i := by
  induction rs generalizing n p i with
  | nil => cases h
  | cons r rs ih =>
    rw [sealAll] at h
    cases i with
    | zero =>
      cases h
      exact (UInt64.add_zero n).symm
    | succ i => rw [ih h, UInt64.add_assoc, Nat.add_comm i 1, UInt64.ofNat_add]; rfl

-- a chain of `2 ^ 64` records would have two at one place
theorem toNat_sequence (count : rs.length < 2 ^ 64) (h : (sealAll 0 genesisHash rs)[i]? = some s) : s.sequence.toNat = i := by
  obtain ⟨below, -⟩ := List.getElem?_eq_some_iff.1 h
  rw [length_sealAll] at below
  rw [sequence_of_getElem? h, UInt64.zero_add]
  exact UInt64.toNat_ofNat_of_lt' (below.trans count)

theorem getElem?_sequence (count : rs.length < 2 ^ 64) (h : s ∈ sealAll 0 genesisHash rs) :
    (sealAll 0 genesisHash rs)[s.sequence.toNat]? = some s := by
  obtain ⟨i, hi⟩ := List.mem_iff_getElem?.1 h
  rw [toNat_sequence count hi, hi]

theorem exists_sealAll_of_append {front rest : List Sealed} (h : sealAll n p rs = front ++ rest) :
    ∃ q ts, rest = sealAll (n + .ofNat front.length) q ts ∧ (front = [] → q = p) := by
  induction front generalizing n p rs with
  | nil =>
    have first : n + .ofNat ([] : List Sealed).length = n := UInt64.add_zero n
    exact ⟨p, rs, first.symm ▸ h.symm, fun _ => rfl⟩
  | cons f front ih =>
    cases rs with
    | nil => cases h
    | cons r rs =>
      obtain ⟨q, ts, tail, -⟩ := ih (List.cons.inj h).2
      refine ⟨q, ts, ?_, nofun⟩
      rw [tail, List.length_cons, Nat.add_comm, UInt64.ofNat_add, ← UInt64.add_assoc]
      rfl

theorem exists_sealAll_of_prefix {list : List Sealed} (h : list <+: sealAll n p rs) : ∃ ts, list = sealAll n p ts := by
  induction list generalizing n p rs with
  | nil => exact ⟨[], rfl⟩
  | cons s list ih =>
    cases rs with
    | nil => exact absurd (List.prefix_nil.1 h) (List.cons_ne_nil s list)
    | cons r rs =>
      obtain ⟨rfl, tail⟩ := List.cons_prefix_cons.1 h
      obtain ⟨ts, rfl⟩ := ih tail
      exact ⟨r :: ts, rfl⟩

theorem verifyFrom_sealAll (n : UInt64) (p : String) (rs : List Record) :
    verifyFrom (some ⟨n, p⟩) (sealAll n p rs) = .ok () := by
  induction rs generalizing n p with
  | nil => rfl
  | cons r rs ih =>
    rw [sealAll]
    refine verifyFrom_cons.2 ⟨⟨?_, nofun, beq_self_eq_true _⟩, ih _ _⟩
    rintro e ⟨⟩
    exact ⟨rfl, rfl⟩

end Sealing

/-! ### Segments -/

section Segments
variable {rs : List Record} {list : List Sealed} {s : Sealed}

def Accepted (list : List Sealed) : Prop := ∃ n, verifyChain list = .ok n

theorem accepted_iff : Accepted list ↔ verifyFrom none list = .ok () := by
  simp only [Accepted, verifyChain_eq_ok, exists_and_left, exists_eq', and_true]

/-- What is asked of a record that comes first is asked of it behind others as well. -/
theorem verifyFrom_none {e : Expected} (genesis : e.sequence = 0 → e.prevHash = genesisHash)
    (h : verifyFrom (some e) list = .ok ()) : verifyFrom none list = .ok () := by
  cases list with
  | nil => rfl
  | cons s list =>
    obtain ⟨continues, rest⟩ := verifyFrom_cons.1 h
    obtain ⟨sequence, prevHash⟩ := continues.linked e rfl
    refine verifyFrom_cons.2 ⟨⟨nofun, fun _ first => ?_, continues.intact⟩, rest⟩
    rw [prevHash, genesis (sequence.symm.trans first)]

theorem verifyFrom_none_sealAll (rs : List Record) : verifyFrom none (sealAll 0 genesisHash rs) = .ok () :=
  verifyFrom_none (fun _ => rfl) (verifyFrom_sealAll 0 genesisHash rs)

theorem prefix_drop_of_verifyFrom (count : rs.length < 2 ^ 64) {e : Expected} (mem : ∀ s ∈ list, s ∈ sealAll 0 genesisHash rs)
    (h : verifyFrom (some e) list = .ok ()) : list <+: (sealAll 0 genesisHash rs).drop e.sequence.toNat := by
  induction list generalizing e with
  | nil => exact List.nil_prefix
  | cons s list ih =>
    obtain ⟨continues, rest⟩ := verifyFrom_cons.1 h
    obtain ⟨below, hs⟩ := List.getElem?_eq_some_iff.1 (getElem?_sequence count (mem s (List.mem_cons_self ..)))
    have next : (s.sequence + 1).toNat = s.sequence.toNat + 1 := by
      rw [length_sealAll] at below
      exact (UInt64.toNat_add ..).trans (Nat.mod_eq_of_lt (Nat.lt_of_le_of_lt below count))
    have follows := ih (fun t ht => mem t (List.mem_cons_of_mem _ ht)) rest
    rw [next] at follows
    rw [← (continues.linked e rfl).1, List.drop_eq_getElem_cons below, hs, List.cons_prefix_cons]
    exact ⟨rfl, follows⟩

theorem Accepted.prefix_drop (count : rs.length < 2 ^ 64) (mem : ∀ t ∈ s :: list, t ∈ sealAll 0 genesisHash rs)
    (h : Accepted (s :: list)) : s :: list <+: (sealAll 0 genesisHash rs).drop s.sequence.toNat := by
  obtain ⟨continues, rest⟩ := verifyFrom_cons.1 (accepted_iff.1 h)
  refine prefix_drop_of_verifyFrom (e := ⟨s.sequence, s.prevHash⟩) count mem (verifyFrom_cons.2 ⟨⟨?_, nofun, continues.intact⟩, rest⟩)
  rintro e ⟨⟩
  exact ⟨rfl, rfl⟩

theorem accepted_of_infix (count : rs.length < 2 ^ 64) (segment : list <:+: sealAll 0 genesisHash rs) : Accepted list := by
  obtain ⟨front, back, whole⟩ := segment
  rw [List.append_assoc] at whole
  obtain ⟨q, ts, rest, genesis⟩ := exists_sealAll_of_append whole.symm
  obtain ⟨us, rfl⟩ := exists_sealAll_of_prefix (rest ▸ List.prefix_append list back)
  refine accepted_iff.2 (verifyFrom_none ?_ (verifyFrom_sealAll _ q us))
  intro first
  have short : front.length < 2 ^ 64 := by
    have := congrArg List.length whole
    rw [List.length_append, length_sealAll] at this
    omega
  rw [UInt64.zero_add, ← UInt64.toNat_inj, UInt64.toNat_ofNat_of_lt' short] at first
  exact genesis (List.eq_nil_of_length_eq_zero first)

/-- Records of a chain, taken in any order and any number of times, are accepted just when they are a segment of the chain, and
with the first record of the chain at their head only as a beginning of it. (No list has `2 ^ 64` records.) -/
theorem verifyChain_rearranged_iff (count : rs.length < 2 ^ 64) (mem : ∀ s ∈ list, s ∈ sealAll 0 genesisHash rs) :
    (Accepted list ↔ list <:+: sealAll 0 genesisHash rs) ∧
      (Accepted list → (∀ s, list.head? = some s → s.sequence = 0) → list <+: sealAll 0 genesisHash rs) := by
  refine ⟨⟨fun h => ?_, accepted_of_infix count⟩, fun h first => ?_⟩
  · cases list with
    | nil => exact List.nil_infix
    | cons s list => exact (h.prefix_drop count mem).isInfix.trans (List.drop_suffix ..).isInfix
  · cases list with
    | nil => exact List.nil_prefix
    | cons s list => simpa [first s rfl] using h.prefix_drop count mem

/-- The last two records of a chain of three. -/
theorem verifyChain_rearranged_tail :
    let r : Record := ⟨⟨0, 0⟩, "system", "momentum", 1, .loadAttempt, .obj []⟩
    let list := (sealAll 0 genesisHash [r, r, r]).drop 1
    [r, r, r].length < 2 ^ 64 ∧ (∀ s ∈ list, s ∈ sealAll 0 genesisHash [r, r, r]) ∧
      (Accepted list ↔ list <:+: sealAll 0 genesisHash [r, r, r]) ∧
      (Accepted list → (∀ s, list.head? = some s → s.sequence = 0) → list <+: sealAll 0 genesisHash [r, r, r]) := by
  intro r list
  have count : [r, r, r].length < 2 ^ 64 := by decide
  have mem : ∀ s ∈ list, s ∈ sealAll 0 genesisHash [r, r, r] := fun s hs => List.mem_of_mem_drop hs
  exact ⟨count, mem, verifyChain_rearranged_iff count mem⟩

/-- A chain without its first record is accepted although it is no beginning of the chain. -/
theorem not_prefix_of_accepted : ¬ ∀ (rs : List Record) (list : List Sealed), rs.length < 2 ^ 64 →
    (∀ s ∈ list, s ∈ sealAll 0 genesisHash rs) → Accepted list → list <+: sealAll 0 genesisHash rs := by
  intro detects
  let r : Record := ⟨⟨1704067200, 0⟩, "system", "momentum", 1, .loadAttempt, .obj []⟩
  let later : Record := ⟨⟨1704067201, 0⟩, "system", "momentum", 2, .loadAttempt, .obj []⟩
  let second := Sealed.ofRecord 1 (Sealed.ofRecord 0 genesisHash r).hash later
  have whole : sealAll 0 genesisHash [r, later] = [.ofRecord 0 genesisHash r, second] := rfl
  have count : [r, later].length < 2 ^ 64 := by decide
  have tail : [second] <:+: sealAll 0 genesisHash [r, later] := (List.suffix_cons ..).isInfix
  have accepted : Accepted [second] := accepted_of_infix count tail
  have same := detects [r, later] [second] count (fun s hs => tail.subset hs) accepted
  rw [whole, List.cons_prefix_cons] at same
  exact absurd (congrArg Sealed.sequence same.1) (by decide)

end Segments

end StrategyHost.Audit
