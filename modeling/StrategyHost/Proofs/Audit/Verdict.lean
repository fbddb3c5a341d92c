import Mathlib.Data.List.Chain
import StrategyHost.Audit.Tampering
import StrategyHost.Proofs.Audit.Rearranged
import StrategyHost.Proofs.Audit.Tamper

/-!
# The verdict on a chain

A chain is refused for the first of its records that breaks it where it stands (`verifyFrom_eq_error`). Hence an edited record is
named itself, and if its hash has been taken again, the record behind it, which still links to the old hash; only at the end of a
chain nothing shows (`verifyChain_edited`).

`Chained` is what the accepted chains are. The place behind the last one is the first again, so an accepted chain may go round:
`verifyChain_answers_iff` says when it does.
-/

namespace StrategyHost.Audit

open Sha256 (CollisionFree)

section Faults
variable {expected : Option Expected} {s : Sealed} {rs : List Sealed} {fault : ChainFault}

theorem verifyFrom_cons_eq_error : verifyFrom expected (s :: rs) = .error fault ↔
    (∃ why, findBreak expected s = some why ∧ fault = .broken s.sequence.toNat why) ∨
      Continues expected s ∧ verifyFrom (some ⟨s.sequence + 1, s.hash⟩) rs = .error fault := by
  rw [verifyFrom, continues_iff]
  cases findBreak expected s with
  | some why => simp [eq_comm]
  | none => simp

/-- The record that a chain is refused for stands behind an accepted chain. -/
theorem verifyFrom_eq_error : verifyFrom expected rs = .error fault ↔ ∃ front s back why, rs = front ++ s :: back ∧
    verifyFrom expected front = .ok () ∧ findBreak (expectedAfter expected front) s = some why ∧
      fault = .broken s.sequence.toNat why := by
  induction rs generalizing expected with
  | nil =>
    constructor
    · nofun
    · rintro ⟨front, s, back, why, whole, -⟩
      simp at whole
  | cons t rs ih =>
    rw [verifyFrom_cons_eq_error, ih]
    constructor
    · rintro (⟨why, breaks, named⟩ | ⟨continues, front, s, back, why, rfl, accepted, breaks, named⟩)
      · exact ⟨[], t, rs, why, rfl, rfl, breaks, named⟩
      · refine ⟨t :: front, s, back, why, rfl, verifyFrom_cons.2 ⟨continues, accepted⟩, ?_, named⟩
        rwa [expectedAfter_cons]
    · rintro ⟨front, s, back, why, whole, accepted, breaks, named⟩
      cases front with
      | nil =>
        cases whole
        exact .inl ⟨why, breaks, named⟩
      | cons f front =>
        obtain ⟨rfl, rfl⟩ := List.cons.inj whole
        obtain ⟨continues, rest⟩ := verifyFrom_cons.1 accepted
        rw [expectedAfter_cons] at breaks
        exact .inr ⟨continues, front, s, back, why, rfl, rest, breaks, named⟩

theorem verifyChain_eq_error : verifyChain rs = .error fault ↔ verifyFrom none rs = .error fault := by
  unfold verifyChain
  cases verifyFrom none rs with
  | error e => simp [Except.map]
  | ok u => simp [Except.map]

end Faults

/-! ### Edited records -/

section Edited
variable {expected : Option Expected} {s t e : Sealed} {front back : List Sealed}

theorem exists_set_eq {list : List Sealed} {i : ℕ} (found : list[i]? = some s) :
    ∃ front back, list = front ++ s :: back ∧ front.length = i ∧ ∀ e, list.set i e = front ++ e :: back := by
  obtain ⟨below, here⟩ := List.getElem?_eq_some_iff.1 found
  have whole : list = list.take i ++ s :: list.drop (i + 1) := by
    rw [← here, ← List.drop_eq_getElem_cons below, List.take_append_drop]
  exact ⟨_, _, whole, List.length_take_of_le below.le, fun e => List.set_eq_take_cons_drop e below⟩

theorem findBreak_edited (continues : Continues expected s) (place : e.sequence = s.sequence) (link : e.prevHash = s.prevHash) :
    findBreak expected e = if e.isIntact then none else some .hashMismatch := by
  cases expected with
  | none =>
    have genesis : ¬ (e.sequence = 0 ∧ e.prevHash ≠ genesisHash) := by
      rintro ⟨first, other⟩
      rw [place] at first
      exact other (link.trans (continues.genesis rfl first))
    rw [findBreak, if_neg genesis]
  | some asked =>
    obtain ⟨sequence, prevHash⟩ := continues.linked asked rfl
    have samePlace : ¬ e.sequence ≠ asked.sequence := not_not.2 (place.trans sequence)
    have sameLink : ¬ e.prevHash ≠ asked.prevHash := not_not.2 (link.trans prevHash)
    rw [findBreak, if_neg samePlace, if_neg sameLink]

theorem continues_edited (continues : Continues expected s) (place : e.sequence = s.sequence) (link : e.prevHash = s.prevHash)
    (intact : e.isIntact = true) : Continues expected e := by
  rw [continues_iff, findBreak_edited continues place link, if_pos intact]

theorem verifyChain_of_not_intact (accepted : verifyFrom none (front ++ s :: back) = .ok ()) (place : e.sequence = s.sequence)
    (link : e.prevHash = s.prevHash) (torn : e.isIntact = false) :
    verifyChain (front ++ e :: back) = .error (.broken s.sequence.toNat .hashMismatch) := by
  obtain ⟨before, rest⟩ := verifyFrom_append.1 accepted
  have breaks := findBreak_edited (verifyFrom_cons.1 rest).1 place link
  rw [torn, if_neg Bool.false_ne_true] at breaks
  rw [verifyChain_eq_error, verifyFrom_eq_error, ← place]
  exact ⟨front, e, back, _, rfl, before, breaks, rfl⟩

/-- A record with another hash that is the one of its contents is not named; the record behind it is. -/
theorem verifyChain_of_other_hash (accepted : verifyFrom none (front ++ s :: t :: back) = .ok ()) (place : e.sequence = s.sequence)
    (link : e.prevHash = s.prevHash) (intact : e.isIntact = true) (other : e.hash ≠ s.hash) :
    verifyChain (front ++ e :: t :: back) = .error (.broken (s.sequence + 1).toNat .brokenLink) := by
  obtain ⟨before, rest⟩ := verifyFrom_append.1 accepted
  obtain ⟨continues, rest⟩ := verifyFrom_cons.1 rest
  have sequence : t.sequence = s.sequence + 1 := ((verifyFrom_cons.1 rest).1.linked _ rfl).1
  have prevHash : t.prevHash = s.hash := ((verifyFrom_cons.1 rest).1.linked _ rfl).2
  have breaks : findBreak (some ⟨e.sequence + 1, e.hash⟩) t = some .brokenLink := by
    have samePlace : ¬ t.sequence ≠ e.sequence + 1 := not_not.2 (by rw [sequence, place])
    have otherLink : t.prevHash ≠ e.hash := by
      rw [prevHash]
      exact other.symm
    rw [findBreak, if_neg samePlace, if_pos otherLink]
  rw [verifyChain_eq_error, verifyFrom_eq_error, ← sequence]
  refine ⟨front ++ [e], t, back, _, ?_, verifyFrom_append.2 ⟨before, ?_⟩, ?_, rfl⟩
  · rw [List.append_assoc, List.singleton_append]
  · exact verifyFrom_cons.2 ⟨continues_edited continues place link intact, rfl⟩
  · rwa [expectedAfter_concat]

theorem verifyChain_of_last (accepted : verifyFrom none (front ++ [s]) = .ok ()) (place : e.sequence = s.sequence)
    (link : e.prevHash = s.prevHash) (intact : e.isIntact = true) : verifyChain (front ++ [e]) = .ok (front.length + 1) := by
  obtain ⟨before, rest⟩ := verifyFrom_append.1 accepted
  have continues := continues_edited (verifyFrom_cons.1 rest).1 place link intact
  exact verifyChain_concat.2 ⟨verifyChain_eq_ok.2 ⟨before, rfl⟩, continues⟩

end Edited

theorem hex_hashed_ne {s : Sealed} {r : Record} (other : r.toJson.compact ≠ s.record.toJson.compact)
    (free : CollisionFree [s.hashed, { s with record := r }.hashed]) :
    Sha256.hex { s with record := r }.hashed ≠ Sha256.hex s.hashed := by
  intro same
  have bytes : { s with record := r }.hashed = s.hashed := free.eq_of_hex (by simp) (by simp) same
  obtain ⟨-, -, text⟩ := sealedBytes_injective bytes
  exact other text

/-- In a chain that is sealed from the genesis hash on a record is given other contents. With its old hash the record itself is named;
with the hash of its new contents the record behind it is named, and if there is none the chain is accepted. (No list has `2 ^ 64`
records.) -/
theorem verifyChain_edited {rs : List Record} {i : ℕ} {s : Sealed} {r : Record} (count : rs.length < 2 ^ 64)
    (found : (sealAll 0 genesisHash rs)[i]? = some s) (other : r.toJson.compact ≠ s.record.toJson.compact)
    (free : CollisionFree [s.hashed, { s with record := r }.hashed]) :
    let chain := sealAll 0 genesisHash rs
    let edited := { s with record := r }
    verifyChain (chain.set i edited) = .error (.broken i .hashMismatch) ∧
      (i + 1 < rs.length → verifyChain (chain.set i edited.resealed) = .error (.broken (i + 1) .brokenLink)) ∧
      (i + 1 = rs.length → verifyChain (chain.set i edited.resealed) = .ok rs.length) := by
  intro chain edited
  have accepted : verifyFrom none chain = .ok () := verifyFrom_none_sealAll rs
  have place : s.sequence.toNat = i := toNat_sequence count found
  obtain ⟨front, back, whole, hi, set⟩ : ∃ front back, chain = front ++ s :: back ∧ front.length = i ∧
      ∀ e, chain.set i e = front ++ e :: back := exists_set_eq found
  have length : i + (back.length + 1) = rs.length := by
    rw [← hi, ← List.length_cons, ← List.length_append, ← whole, length_sealAll]
  rw [whole] at accepted
  have continues := (verifyFrom_cons.1 (verifyFrom_append.1 accepted).2).1
  have hashes : Sha256.hex edited.hashed ≠ s.hash := by
    rw [← continues.hex_hashed]
    exact hex_hashed_ne other free
  have torn : edited.isIntact = false := beq_eq_false_iff_ne.2 hashes
  have intact : edited.resealed.isIntact = true := beq_self_eq_true _
  refine ⟨?_, fun inside => ?_, fun last => ?_⟩
  · rw [set, ← place]
    exact verifyChain_of_not_intact accepted rfl rfl torn
  · obtain ⟨t, back, rfl⟩ := List.exists_cons_of_length_pos (show 0 < back.length by omega)
    have next : (s.sequence + 1).toNat = i + 1 := by
      rw [UInt64.toNat_add, place]
      exact Nat.mod_eq_of_lt (inside.trans count)
    rw [set, ← next]
    exact verifyChain_of_other_hash accepted rfl rfl intact hashes
  · obtain rfl : back = [] := List.eq_nil_of_length_eq_zero (by omega)
    rw [set, ← last, ← hi]
    exact verifyChain_of_last accepted rfl rfl intact

/-- The first of two records is put down to somebody else. -/
theorem verifyChain_edited_first :
    let r : Record := ⟨⟨0, 0⟩, "system", "momentum", 1, .loadAttempt, .obj []⟩
    let first := Sealed.ofRecord 0 genesisHash r
    let edited := { first with record := { r with actor := "eve" } }
    let chain := sealAll 0 genesisHash [r, r]
    CollisionFree [first.hashed, edited.hashed] ∧ verifyChain (chain.set 0 edited) = .error (.broken 0 .hashMismatch) ∧
      verifyChain (chain.set 0 edited.resealed) = .error (.broken 1 .brokenLink) := by
  intro r first edited chain
  have free : CollisionFree [first.hashed, edited.hashed] := Sha256.collisionFree_pair (by decide +kernel)
  have other : edited.record.toJson.compact ≠ first.record.toJson.compact := by decide +kernel
  have count : [r, r].length < 2 ^ 64 := by decide
  obtain ⟨kept, resealed, -⟩ := verifyChain_edited count (i := 0) rfl other free
  exact ⟨free, kept, resealed (by decide)⟩

/-! ### Chains that are accepted -/

/-- What a chain has to be: its places follow one another, word by word, and so do its links. -/
structure Chained (rs : List Sealed) : Prop where
  places : rs.IsChain fun s t => t.sequence = s.sequence + 1
  links : rs.IsChain fun s t => t.prevHash = s.hash
  genesis : ∀ s, rs.head? = some s → s.sequence = 0 → s.prevHash = genesisHash
  intact : ∀ s ∈ rs, s.isIntact = true

/-- The sums that are taken on the way, as numbers: one behind each record that does not break the chain, whether or not another
record follows. -/
def placeSums (expected : Option Expected) : List Sealed → List ℕ
  | [] => []
  | s :: rest =>
    match findBreak expected s with
    | some _ => []
    | none => (s.sequence.toNat + 1) :: placeSums (some ⟨s.sequence + 1, s.hash⟩) rest

section Chained
variable {expected : Option Expected} {s : Sealed} {rs front : List Sealed}

theorem chained_nil : Chained [] := ⟨.nil, .nil, nofun, nofun⟩

theorem Chained.of_prefix (h : Chained rs) (hp : front <+: rs) : Chained front := by
  obtain ⟨back, rfl⟩ := hp
  refine ⟨h.places.left_of_append, h.links.left_of_append, fun s hs first => ?_, fun s hs => ?_⟩
  · cases front with
    | nil => cases hs
    | cons f front => exact h.genesis s hs first
  · exact h.intact s (List.mem_append_left _ hs)

theorem chained_concat : Chained (rs ++ [s]) ↔ Chained rs ∧ Continues (expectedAfter none rs) s := by
  rcases List.eq_nil_or_concat' rs with rfl | ⟨rs, t, rfl⟩
  · constructor
    · intro h
      exact ⟨h.of_prefix List.nil_prefix, nofun, fun _ => h.genesis s rfl, h.intact s (List.mem_singleton_self s)⟩
    · rintro ⟨-, -, genesis, intact⟩
      refine ⟨.singleton s, .singleton s, ?_, List.forall_mem_singleton.2 intact⟩
      rintro _ ⟨⟩
      exact genesis rfl
  · rw [expectedAfter_concat]
    constructor
    · intro h
      have place := (List.isChain_append.1 h.places).2.2 t (by simp) s rfl
      have link := (List.isChain_append.1 h.links).2.2 t (by simp) s rfl
      refine ⟨h.of_prefix (List.prefix_append ..), ?_, nofun, h.intact s (by simp)⟩
      rintro _ ⟨⟩
      exact ⟨place, link⟩
    · rintro ⟨h, linked, -, intact⟩
      obtain ⟨place, link⟩ := linked _ rfl
      refine ⟨List.isChain_append.2 ⟨h.places, .singleton s, ?_⟩, List.isChain_append.2 ⟨h.links, .singleton s, ?_⟩, ?_, ?_⟩
      · simpa using place
      · simpa using link
      · intro f hf
        refine h.genesis f ?_
        cases rs <;> exact hf
      · intro x hx
        rcases List.mem_append.1 hx with hx | hx
        · exact h.intact x hx
        · exact List.mem_singleton.1 hx ▸ intact

theorem verifyFrom_eq_ok_iff_chained : verifyFrom none rs = .ok () ↔ Chained rs := by
  induction rs using List.reverseRecOn with
  | nil => simp [verifyFrom, chained_nil]
  | append_singleton rs s ih =>
    rw [verifyFrom_append, verifyFrom_cons, ih, chained_concat]
    simp [verifyFrom]

/-- A sum is taken behind each record up to which the chain is accepted. -/
theorem mem_placeSums {n : ℕ} : n ∈ placeSums expected rs ↔
    ∃ front s, front ++ [s] <+: rs ∧ verifyFrom expected (front ++ [s]) = .ok () ∧ s.sequence.toNat + 1 = n := by
  induction rs generalizing expected with
  | nil => simp [placeSums]
  | cons t rs ih =>
    have split : (∃ front s, front ++ [s] <+: t :: rs ∧ verifyFrom expected (front ++ [s]) = .ok () ∧ s.sequence.toNat + 1 = n) ↔
        Continues expected t ∧ (t.sequence.toNat + 1 = n ∨ ∃ front s, front ++ [s] <+: rs ∧
          verifyFrom (some ⟨t.sequence + 1, t.hash⟩) (front ++ [s]) = .ok () ∧ s.sequence.toNat + 1 = n) := by
      constructor
      · rintro ⟨_ | ⟨f, front⟩, s, begins, accepted, sum⟩
        · obtain ⟨rfl, -⟩ := List.cons_prefix_cons.1 begins
          exact ⟨(verifyFrom_cons.1 accepted).1, .inl sum⟩
        · rw [List.cons_append] at begins accepted
          obtain ⟨rfl, follows⟩ := List.cons_prefix_cons.1 begins
          obtain ⟨continues, rest⟩ := verifyFrom_cons.1 accepted
          exact ⟨continues, .inr ⟨front, s, follows, rest, sum⟩⟩
      · rintro ⟨continues, sum | ⟨front, s, begins, accepted, sum⟩⟩
        · exact ⟨[], t, List.cons_prefix_cons.2 ⟨rfl, List.nil_prefix⟩, verifyFrom_cons.2 ⟨continues, rfl⟩, sum⟩
        · exact ⟨t :: front, s, List.cons_prefix_cons.2 ⟨rfl, begins⟩, verifyFrom_cons.2 ⟨continues, accepted⟩, sum⟩
    rw [split, placeSums, continues_iff]
    cases findBreak expected t with
    | some why => simp
    | none => simp [ih, eq_comm]

theorem toNat_add_one_iff {m n : UInt64} (next : n = m + 1) : n.toNat = m.toNat + 1 ↔ m.toNat + 1 ≠ 2 ^ 64 := by
  have below := m.toNat_lt
  rw [next, UInt64.toNat_add]
  change (m.toNat + 1) % 2 ^ 64 = m.toNat + 1 ↔ _
  omega

theorem isChain_toNat_iff (h : rs.IsChain fun s t => t.sequence = s.sequence + 1) :
    (rs.IsChain fun s t => t.sequence.toNat = s.sequence.toNat + 1) ↔ ∀ s ∈ rs.dropLast, s.sequence.toNat + 1 ≠ 2 ^ 64 := by
  induction rs with
  | nil => simp
  | cons s rs ih =>
    cases rs with
    | nil => simp
    | cons t rs =>
      obtain ⟨next, h⟩ := List.isChain_cons_cons.1 h
      rw [List.isChain_cons_cons, ih h, toNat_add_one_iff next, List.dropLast_cons_cons, List.forall_mem_cons]

/-- Every list of records gets a verdict. A sum leaves the words on the way just when the list begins with a chain up to the last
place; and the places of an accepted list go up by one, as numbers, unless it is a chain that goes on behind the last place. -/
theorem verifyChain_answers_iff (rs : List Sealed) :
    ((∃ n, verifyChain rs = .ok n) ∨ ∃ n why, verifyChain rs = .error (.broken n why)) ∧
    ((∃ n ∈ placeSums none rs, 2 ^ 64 ≤ n) ↔
      ∃ front s, front ++ [s] <+: rs ∧ Chained (front ++ [s]) ∧ s.sequence.toNat + 1 = 2 ^ 64) ∧
    ((∀ n, verifyChain rs = .ok n → rs.IsChain fun s t => t.sequence.toNat = s.sequence.toNat + 1) ↔
      ¬ (Chained rs ∧ ∃ s ∈ rs.dropLast, s.sequence.toNat + 1 = 2 ^ 64)) := by
  refine ⟨?_, ?_, ?_⟩
  · cases verifyChain rs with
    | ok n => exact .inl ⟨n, rfl⟩
    | error fault => exact .inr ⟨fault.1, fault.2, rfl⟩
  · simp only [mem_placeSums, verifyFrom_eq_ok_iff_chained]
    constructor
    · rintro ⟨_, ⟨front, s, begins, chained, rfl⟩, large⟩
      exact ⟨front, s, begins, chained, Nat.le_antisymm s.sequence.toNat_lt large⟩
    · rintro ⟨front, s, begins, chained, last⟩
      exact ⟨_, ⟨front, s, begins, chained, rfl⟩, last.ge⟩
  · by_cases chained : Chained rs
    · have accepted : verifyChain rs = .ok rs.length := verifyChain_eq_ok.2 ⟨verifyFrom_eq_ok_iff_chained.2 chained, rfl⟩
      simp [accepted, chained, isChain_toNat_iff chained.places]
    · have refused (n : ℕ) : verifyChain rs ≠ .ok n := fun h =>
        chained (verifyFrom_eq_ok_iff_chained.1 (verifyChain_eq_ok.1 h).1)
      simp [refused, chained]

/-- A record at the last place there is and one behind it at the first, each with the hash of its contents, are accepted. -/
theorem not_verifyChain_answers : ¬ ∀ rs : List Sealed,
    ((∃ n, verifyChain rs = .ok n) ∨ ∃ n why, verifyChain rs = .error (.broken n why)) ∧
      (∀ n ∈ placeSums none rs, n < 2 ^ 64) ∧
      ∀ n, verifyChain rs = .ok n → rs.IsChain fun s t => t.sequence.toNat = s.sequence.toNat + 1 := by
  intro answers
  let r : Record := ⟨⟨1704067200, 0⟩, "system", "momentum", 1, .loadAttempt, .obj []⟩
  let last := Sealed.ofRecord 18446744073709551615 genesisHash r
  let behind := Sealed.ofRecord 0 last.hash r
  have continues : Continues none last := ⟨nofun, fun _ first => absurd first (by decide), beq_self_eq_true _⟩
  have round : last.sequence + 1 = 0 := by decide
  have goesOn : Continues (some ⟨last.sequence + 1, last.hash⟩) behind := by
    refine ⟨?_, nofun, beq_self_eq_true _⟩
    rintro _ ⟨⟩
    exact ⟨round.symm, rfl⟩
  have accepted : verifyChain [last, behind] = .ok 2 :=
    verifyChain_eq_ok.2 ⟨verifyFrom_cons.2 ⟨continues, verifyFrom_cons.2 ⟨goesOn, rfl⟩⟩, rfl⟩
  have increasing := (answers [last, behind]).2.2 2 accepted
  exact absurd (List.isChain_pair.1 increasing) (by decide)

end Chained

end StrategyHost.Audit
