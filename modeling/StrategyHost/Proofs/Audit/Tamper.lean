import Mathlib.Data.List.Forall2
import StrategyHost.Proofs.Audit.Chain
import StrategyHost.Proofs.Digest.Collision
import StrategyHost.Proofs.Json.Nesting

/-! # One hash stands for a whole chain

What a record's hash is taken over tells place, link and text of the record (`sealedBytes_injective`): the link has no fixed
length, but no text of a record is the end of another one. Main statement: `isTailOf_of_last_hash`, of two accepted chains that
end in one hash the shorter is the end of the longer. -/

namespace StrategyHost.Audit

open Sha256 (CollisionFree bigEndian)

/-! ### What is hashed -/

theorem length_bigEndian (x n : ℕ) : (bigEndian x n).length = n := by
  induction n with
  | zero => rfl
  | succ n ih => rw [bigEndian, List.length_cons, ih]

theorem mod_eq_of_bigEndian {x y n : ℕ} (h : bigEndian x n = bigEndian y n) : x % 256 ^ n = y % 256 ^ n := by
  induction n with
  | zero => rw [Nat.pow_zero, Nat.mod_one, Nat.mod_one]
  | succ n ih =>
    rw [bigEndian, bigEndian] at h
    obtain ⟨first, rest⟩ := List.cons.inj h
    have digit := congrArg UInt8.toNat first
    rw [UInt8.toNat_ofNat', UInt8.toNat_ofNat'] at digit
    rw [Nat.pow_succ, Nat.mod_mul, Nat.mod_mul, ih rest, digit]

theorem bigEndian_injective {m n : UInt64} (h : bigEndian m.toNat 8 = bigEndian n.toNat 8) : m = n := by
  have low := mod_eq_of_bigEndian h
  have hm := m.toNat_lt
  have hn := n.toNat_lt
  exact UInt64.toNat_inj.1 (by omega)

theorem write_record (r : Record) : ∃ more, Json.write r.toJson [] = '{' :: '"' :: 't' :: more := ⟨_, rfl⟩

theorem nil_of_append_record {r s : Record} {d : List Char} (h : Json.write r.toJson [] = d ++ Json.write s.toJson []) :
    d = [] := by
  obtain ⟨more, hs⟩ := write_record s
  exact Json.nil_of_append_write_obj hs (fun _ => rfl) h

/-- A link and the text of a record are told apart although nothing stands between them. -/
theorem append_record_inj {p q : List Char} {r s : Record}
    (h : p ++ Json.write r.toJson [] = q ++ Json.write s.toJson []) :
    p = q ∧ Json.write r.toJson [] = Json.write s.toJson [] := by
  rcases List.append_eq_append_iff.1 h with ⟨d, rfl, text⟩ | ⟨d, rfl, text⟩
  · obtain rfl := nil_of_append_record text
    exact ⟨(List.append_nil _).symm, text⟩
  · obtain rfl := nil_of_append_record text
    exact ⟨List.append_nil _, text.symm⟩

theorem sealedBytes_injective {m n : UInt64} {p q : String} {r s : Record}
    (h : sealedBytes m p r = sealedBytes n q s) : m = n ∧ p = q ∧ r.toJson.compact = s.toJson.compact := by
  rw [sealedBytes, sealedBytes, List.append_assoc, List.append_assoc, ← utf8Bytes_append, ← utf8Bytes_append] at h
  obtain ⟨place, text⟩ := List.append_inj h ((length_bigEndian ..).trans (length_bigEndian ..).symm)
  have chars := congrArg String.toList (utf8Bytes_injective text)
  rw [String.toList_append, String.toList_append, Json.compact, Json.compact, String.toList_ofList,
    String.toList_ofList] at chars
  obtain ⟨link, record⟩ := append_record_inj chars
  exact ⟨bigEndian_injective place, String.toList_inj.1 link, congrArg String.ofList record⟩

/-! ### Chains that end in one hash -/

/-- The bytes that are hashed when a record is checked. -/
def Sealed.hashed (s : Sealed) : List UInt8 := sealedBytes s.sequence s.prevHash s.record

/-- Whether two sealed records have the same place, link and hash, and records of one text. -/
structure Sealed.Agrees (s t : Sealed) : Prop where
  sequence : s.sequence = t.sequence
  prevHash : s.prevHash = t.prevHash
  hash : s.hash = t.hash
  text : s.record.toJson.compact = t.record.toJson.compact

/-- Whether a chain agrees, record by record, with the end of another one. -/
def IsTailOf (rs ts : List Sealed) : Prop := ∃ front back, ts = front ++ back ∧ List.Forall₂ Sealed.Agrees rs back

section Tail
variable {rs ts : List Sealed} {s t : Sealed}

theorem Continues.hex_hashed {expected : Option Expected} (h : Continues expected s) : Sha256.hex s.hashed = s.hash :=
  beq_iff_eq.1 h.intact

theorem Continues.agrees {expected expected' : Option Expected} {messages : List (List UInt8)}
    (hs : Continues expected s) (ht : Continues expected' t) (free : CollisionFree messages)
    (ms : s.hashed ∈ messages) (mt : t.hashed ∈ messages) (hash : s.hash = t.hash) : s.Agrees t := by
  have bytes : s.hashed = t.hashed := free.eq_of_hex ms mt (hs.hex_hashed.trans (hash.trans ht.hex_hashed.symm))
  obtain ⟨sequence, prevHash, text⟩ := sealedBytes_injective bytes
  exact ⟨sequence, prevHash, hash, text⟩

theorem IsTailOf.concat (h : IsTailOf rs ts) (agrees : s.Agrees t) : IsTailOf (rs ++ [s]) (ts ++ [t]) := by
  obtain ⟨front, back, rfl, same⟩ := h
  refine ⟨front, back ++ [t], List.append_assoc .., ?_⟩
  exact List.rel_append same (.cons agrees .nil)

/-- Agreement goes back along the links: the last records agree, so those before them carry one hash again. -/
theorem isTailOf_of_hash {messages : List (List UInt8)} (free : CollisionFree messages)
    (hrs : verifyFrom none (rs ++ [s]) = .ok ()) (hts : verifyFrom none (ts ++ [t]) = .ok ())
    (mrs : ∀ x ∈ rs ++ [s], x.hashed ∈ messages) (mts : ∀ x ∈ ts ++ [t], x.hashed ∈ messages)
    (len : rs.length ≤ ts.length) (hash : s.hash = t.hash) : IsTailOf (rs ++ [s]) (ts ++ [t]) := by
  induction rs using List.reverseRecOn generalizing ts s t with
  | nil =>
    obtain ⟨-, hs⟩ := verifyFrom_append.1 hrs
    obtain ⟨-, ht⟩ := verifyFrom_append.1 hts
    have agrees := (verifyFrom_cons.1 hs).1.agrees (verifyFrom_cons.1 ht).1 free (mrs s (by simp)) (mts t (by simp)) hash
    exact ⟨ts, [t], rfl, .cons agrees .nil⟩
  | append_singleton rs s' ih =>
    rcases List.eq_nil_or_concat' ts with rfl | ⟨ts, t', rfl⟩
    · simp at len
    obtain ⟨hrs', hs⟩ := verifyFrom_append.1 hrs
    obtain ⟨hts', ht⟩ := verifyFrom_append.1 hts
    rw [expectedAfter_concat] at hs ht
    have cs := (verifyFrom_cons.1 hs).1
    have ct := (verifyFrom_cons.1 ht).1
    have agrees := cs.agrees ct free (mrs s (by simp)) (mts t (by simp)) hash
    have before : s'.hash = t'.hash :=
      calc s'.hash = s.prevHash := (cs.linked _ rfl).2.symm
        _ = t.prevHash := agrees.prevHash
        _ = t'.hash := (ct.linked _ rfl).2
    refine IsTailOf.concat (ih hrs' hts' ?_ ?_ ?_ before) agrees
    · exact fun x hx => mrs x (List.mem_append_left _ hx)
    · exact fun x hx => mts x (List.mem_append_left _ hx)
    · simpa using len

/-- Of two accepted chains that end in one hash, the shorter is the end of the longer, whatever the first record of either
follows. -/
theorem isTailOf_of_last_hash {m n : ℕ} (hrs : verifyChain rs = .ok m) (hts : verifyChain ts = .ok n)
    (hs : rs.getLast? = some s) (ht : ts.getLast? = some t) (hash : s.hash = t.hash)
    (free : CollisionFree ((rs ++ ts).map Sealed.hashed)) :
    (rs.length ≤ ts.length → IsTailOf rs ts) ∧ (ts.length ≤ rs.length → IsTailOf ts rs) := by
  obtain ⟨rs, rfl⟩ := List.getLast?_eq_some_iff.1 hs
  obtain ⟨ts, rfl⟩ := List.getLast?_eq_some_iff.1 ht
  have first := (verifyChain_eq_ok.1 hrs).1
  have second := (verifyChain_eq_ok.1 hts).1
  have mrs : ∀ x ∈ rs ++ [s], x.hashed ∈ ((rs ++ [s]) ++ (ts ++ [t])).map Sealed.hashed :=
    fun x hx => List.mem_map_of_mem (List.mem_append_left _ hx)
  have mts : ∀ x ∈ ts ++ [t], x.hashed ∈ ((rs ++ [s]) ++ (ts ++ [t])).map Sealed.hashed :=
    fun x hx => List.mem_map_of_mem (List.mem_append_right _ hx)
  constructor
  · intro len
    exact isTailOf_of_hash free first second mrs mts (by simpa using len) hash
  · intro len
    exact isTailOf_of_hash free second first mts mrs (by simpa using len) hash.symm

/-- A chain of two records and its second record alone. -/
theorem isTailOf_second_record :
    let r : Record := ⟨⟨0, 0⟩, "system", "momentum", 1, .loadAttempt, .obj []⟩
    let first := Sealed.ofRecord 0 genesisHash r
    let second := Sealed.ofRecord 1 "c5e09e709168ec08d0e2f86fb405fcbe5d0ccf2bd45e3edbe8b10adf5cd691b3" r
    verifyChain [second] = .ok 1 ∧ verifyChain [first, second] = .ok 2 ∧ IsTailOf [second] [first, second] := by
  intro r first second
  have link : first.hash = "c5e09e709168ec08d0e2f86fb405fcbe5d0ccf2bd45e3edbe8b10adf5cd691b3" := by decide +kernel
  have alone : Continues none second := ⟨nofun, fun _ h => absurd h (by decide), beq_self_eq_true _⟩
  have alone : verifyChain [second] = .ok 1 := verifyChain_eq_ok.2 ⟨verifyFrom_cons.2 ⟨alone, rfl⟩, rfl⟩
  have one : verifyChain ([] ++ [first]) = .ok (0 + 1) := verifyChain_concat.2 ⟨rfl, continues_ofRecord r rfl⟩
  have both : verifyChain ([first] ++ [second]) = .ok (1 + 1) :=
    verifyChain_concat.2 ⟨one, continues_ofRecord r (by rw [← link]; rfl)⟩
  have free : CollisionFree [first.hashed, second.hashed] := Sha256.collisionFree_pair (by decide +kernel)
  have free : CollisionFree (([second] ++ [first, second]).map Sealed.hashed) := free.mono (by simp)
  exact ⟨alone, both, (isTailOf_of_last_hash alone both rfl rfl rfl free).1 (by decide)⟩

end Tail

end StrategyHost.Audit
