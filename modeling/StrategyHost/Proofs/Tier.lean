import Mathlib.Data.List.Basic
import StrategyHost.Cache.Basic

/-!
# Pairs in the shared tier

The shared tier keeps everything under texts. Different pairs of identity and version have different texts (`SharedTier.keyFor_inj`),
so that what is put for one pair or deleted leaves the others alone (`SharedTier.put_spec`, `SharedTier.delete_spec`).
-/

namespace StrategyHost

section
variable {κ α : Type} [DecidableEq κ] {key k : κ}

theorem assocGet?_assocPut (key : κ) (a : α) (entries : List (κ × α)) : assocGet? key (assocPut key a entries) = some a := by
  induction entries with
  | nil => exact if_pos rfl
  | cons e entries ih =>
    obtain ⟨k, b⟩ := e
    rw [assocPut]
    split_ifs with same
    · exact if_pos rfl
    · rw [assocGet?, if_neg same, ih]

theorem assocGet?_assocPut_ne (other : k ≠ key) (a : α) (entries : List (κ × α)) :
    assocGet? k (assocPut key a entries) = assocGet? k entries := by
  induction entries with
  | nil => exact if_neg other.symm
  | cons e entries ih =>
    obtain ⟨k', b⟩ := e
    rw [assocPut]
    split_ifs with same
    · rw [assocGet?, assocGet?, if_neg other.symm, if_neg (same ▸ other.symm)]
    · rw [assocGet?, assocGet?, ih]

theorem assocGet?_assocErase (key : κ) (entries : List (κ × α)) : assocGet? key (assocErase key entries) = none := by
  induction entries with
  | nil => rfl
  | cons e entries ih =>
    obtain ⟨k, b⟩ := e
    rw [assocErase, List.filter_cons, ← assocErase]
    split_ifs with other
    · rw [assocGet?, if_neg (by simpa using other), ih]
    · exact ih

theorem assocGet?_assocErase_ne (other : k ≠ key) (entries : List (κ × α)) :
    assocGet? k (assocErase key entries) = assocGet? k entries := by
  induction entries with
  | nil => rfl
  | cons e entries ih =>
    obtain ⟨k', b⟩ := e
    rw [assocErase, List.filter_cons, ← assocErase]
    split_ifs with same
    · rw [assocGet?, assocGet?, ih]
    · have erased : k' = key := by simpa using same
      rw [assocGet?, if_neg (erased ▸ other.symm), ih]

end

theorem eq_of_append_separator {as bs xs ys : List Char} {c : Char} (hx : c ∉ xs) (hy : c ∉ ys)
    (same : as ++ c :: xs = bs ++ c :: ys) : as = bs ∧ xs = ys := by
  have last {ds xs ys : List Char} (hx : c ∉ xs) (eq : c :: xs = ds ++ c :: ys) : ds = [] ∧ xs = ys := by
    cases ds with
    | nil => exact ⟨rfl, (List.cons.inj eq).2⟩
    | cons d ds =>
      rw [(List.cons.inj eq).2] at hx
      exact absurd (List.mem_append_right ds (List.mem_cons_self ..)) hx
  rcases List.append_eq_append_iff.1 same with ⟨ds, rfl, eq⟩ | ⟨ds, rfl, eq⟩
  · obtain ⟨rfl, rfl⟩ := last hx eq
    exact ⟨(List.append_nil _).symm, rfl⟩
  · obtain ⟨rfl, rfl⟩ := last hy eq
    exact ⟨List.append_nil _, rfl⟩

namespace SharedTier
variable {t t' : SharedTier} {identity identity' : String} {version version' : Nat} {payload : ByteArray}

theorem keyFor_inj (same : keyFor identity version = keyFor identity' version') : identity = identity' ∧ version = version' := by
  have digits (n : Nat) : ':' ∉ (Nat.toDigits 10 n) := by
    intro colon
    have digit : ':'.isDigit = true := Nat.isDigit_of_mem_toDigits (by decide) (by decide) colon
    exact absurd digit (by decide)
  have text (identity : String) (version : Nat) :
      (keyFor identity version).toList = ("strategy:".toList ++ identity.toList) ++ ':' :: Nat.toDigits 10 version := by
    simp [keyFor, String.toList_append]
    rfl
  have texts := congrArg String.toList same
  rw [text, text] at texts
  obtain ⟨names, versions⟩ := eq_of_append_separator (digits version) (digits version') texts
  refine ⟨String.toList_injective (List.append_cancel_left names), ?_⟩
  rw [← Nat.ofDigitChars_ten_toDigits (n := version), versions, Nat.ofDigitChars_ten_toDigits]

theorem get_put (h : t.put identity version payload = .ok t') : t'.get identity version = .ok (some payload) := by
  unfold put online at h
  split_ifs at h with offline
  cases h
  rw [get, online, if_neg offline, assocGet?_assocPut]

/-- A tier that can be reached takes a snapshot for a pair. -/
theorem put_spec (reached : t.offline = false) (pair : Pair) (payload : ByteArray) :
    ∃ t', t.put pair.1 pair.2 payload = .ok t' ∧ t'.offline = false ∧ t'.get pair.1 pair.2 = .ok (some payload) ∧
      ∀ other ≠ pair, t'.get other.1 other.2 = t.get other.1 other.2 := by
  have put : t.put pair.1 pair.2 payload = .ok { t with entries := assocPut (keyFor pair.1 pair.2) payload t.entries } := by
    rw [SharedTier.put, online, reached]
    rfl
  refine ⟨_, put, reached, get_put put, fun other different => ?_⟩
  rw [get, get, assocGet?_assocPut_ne fun same => different (Prod.ext_iff.2 (keyFor_inj same))]
  rfl

/-- A tier that can be reached drops what it has for a pair. -/
theorem delete_spec (reached : t.offline = false) (pair : Pair) :
    ∃ t', t.delete pair.1 pair.2 = .ok t' ∧ t'.offline = false ∧ t'.get pair.1 pair.2 = .ok none ∧
      ∀ other ≠ pair, t'.get other.1 other.2 = t.get other.1 other.2 := by
  have deleted : t.delete pair.1 pair.2 = .ok { t with entries := assocErase (keyFor pair.1 pair.2) t.entries } := by
    rw [SharedTier.delete, online, reached]
    rfl
  refine ⟨_, deleted, reached, ?_, fun other different => ?_⟩
  · rw [get, online, reached, assocGet?_assocErase]
    rfl
  · rw [get, get, assocGet?_assocErase_ne fun same => different (Prod.ext_iff.2 (keyFor_inj same))]
    rfl

end SharedTier
end StrategyHost
