import Mathlib.Data.Finmap
import StrategyHost.Proofs.Tier

/-!
# The shared tier as a map

A tier keeps a list of entries under texts. To those who call it, it is a finite map from pairs to snapshots that can be out of
reach (`TierMap`). `Shows` ties the two together: every text in the list is that of a pair, and stands there once. Each call
keeps it (`Shows.serve`), so that the two give the same answers to every sequence of calls. Main statement: `serveAll_eq`.
-/

namespace StrategyHost

/-! ### Keys of a list of entries -/

section
variable {κ α : Type} [DecidableEq κ] {key : κ} {entries : List (κ × α)}

theorem isSome_assocGet?_iff : (assocGet? key entries).isSome = true ↔ key ∈ entries.map Prod.fst := by
  induction entries with
  | nil => simp [assocGet?]
  | cons e entries ih =>
    obtain ⟨k, a⟩ := e
    rw [assocGet?, List.map_cons, List.mem_cons, ← ih]
    split_ifs with same
    · exact ⟨fun _ => .inl same.symm, fun _ => rfl⟩
    · exact ⟨.inr, fun h => h.resolve_left (Ne.symm same)⟩

theorem keys_assocPut (a : α) : (assocPut key a entries).map Prod.fst =
    if key ∈ entries.map Prod.fst then entries.map Prod.fst else entries.map Prod.fst ++ [key] := by
  induction entries with
  | nil => rfl
  | cons e entries ih =>
    obtain ⟨k, b⟩ := e
    rw [assocPut]
    split_ifs with same held held
    · rw [List.map_cons, List.map_cons, same]
    · exact absurd (same ▸ List.mem_cons_self ..) held
    · have behind := (List.mem_cons.1 held).resolve_left (Ne.symm same)
      rw [List.map_cons, ih, if_pos behind, List.map_cons]
    · have behind : key ∉ entries.map Prod.fst := fun h => held (List.mem_cons_of_mem _ h)
      rw [List.map_cons, ih, if_neg behind, List.map_cons, List.cons_append]

theorem nodup_keys_assocPut (a : α) (nodup : (entries.map Prod.fst).Nodup) : ((assocPut key a entries).map Prod.fst).Nodup := by
  rw [keys_assocPut]
  split_ifs with held
  · exact nodup
  · exact List.concat_eq_append ▸ nodup.concat held

theorem mem_keys_assocPut {k : κ} (a : α) (h : k ∈ (assocPut key a entries).map Prod.fst) :
    k = key ∨ k ∈ entries.map Prod.fst := by
  rw [keys_assocPut] at h
  split_ifs at h with held
  · exact .inr h
  · exact (List.mem_append.1 h).symm.imp_left List.mem_singleton.1

theorem keys_assocErase_sublist (key : κ) (entries : List (κ × α)) :
    ((assocErase key entries).map Prod.fst).Sublist (entries.map Prod.fst) :=
  List.filter_sublist.map _

end

namespace SharedTier

/-! ### Calls -/

inductive Call where
  | get (pair : Pair)
  | put (pair : Pair) (payload : ByteArray)
  | delete (pair : Pair)
  | contains (pair : Pair)
  | size
  | switch (offline : Bool)

inductive Answer where
  | snapshot (result : Except StoreError (Option ByteArray))
  | done (result : Except StoreError Unit)
  | held (yes : Bool)
  | size (n : ℕ)

/-- A tier takes a change that succeeds, and stays as it is under one that fails. -/
def change (t : SharedTier) : Except StoreError SharedTier → Answer × SharedTier
  | .ok t' => (.done (.ok ()), t')
  | .error e => (.done (.error e), t)

def serve (t : SharedTier) : Call → Answer × SharedTier
  | .get pair => (.snapshot (t.get pair.1 pair.2), t)
  | .put pair payload => t.change (t.put pair.1 pair.2 payload)
  | .delete pair => t.change (t.delete pair.1 pair.2)
  | .contains pair => (.held (t.contains pair.1 pair.2), t)
  | .size => (.size t.size, t)
  | .switch offline => (.done (.ok ()), { t with offline })

def serveAll (t : SharedTier) : List Call → List Answer × SharedTier
  | [] => ([], t)
  | c :: cs =>
    let (answer, t) := t.serve c
    let (answers, t) := t.serveAll cs
    (answer :: answers, t)

end SharedTier

/-! ### The map -/

/-- Snapshots by pair, which are out of reach while it is offline. -/
structure TierMap where
  held : Finmap fun _ : Pair => ByteArray
  offline : Bool

namespace TierMap
open SharedTier (Call Answer)

def empty : TierMap := ⟨∅, false⟩

def unreachable : StoreError := .unavailable "shared tier offline"

/-- Other contents, if they can be reached. -/
def change (m : TierMap) (held : Finmap fun _ : Pair => ByteArray) : Answer × TierMap :=
  if m.offline then (.done (.error unreachable), m) else (.done (.ok ()), { m with held })

/-- What is there can be asked for offline, too, but not what it is. -/
def serve (m : TierMap) : Call → Answer × TierMap
  | .get pair => (.snapshot (if m.offline then .error unreachable else .ok (m.held.lookup pair)), m)
  | .put pair payload => m.change (m.held.insert pair payload)
  | .delete pair => m.change (m.held.erase pair)
  | .contains pair => (.held (decide (pair ∈ m.held)), m)
  | .size => (.size m.held.keys.card, m)
  | .switch offline => (.done (.ok ()), { m with offline })

def serveAll (m : TierMap) : List Call → List Answer × TierMap
  | [] => ([], m)
  | c :: cs =>
    let (answer, m) := m.serve c
    let (answers, m) := m.serveAll cs
    (answer :: answers, m)

end TierMap

namespace SharedTier

def keyOf (pair : Pair) : String := keyFor pair.1 pair.2

theorem keyOf_injective : Function.Injective keyOf := fun _ _ same => Prod.ext_iff.2 (keyFor_inj same)

/-- A tier has the contents of a map. -/
structure Shows (t : SharedTier) (m : TierMap) : Prop where
  offline : t.offline = m.offline
  lookup : ∀ pair, assocGet? (keyOf pair) t.entries = m.held.lookup pair
  nodup : (t.entries.map Prod.fst).Nodup
  /-- There is nothing under a text that is not that of a pair. -/
  named : ∀ key ∈ t.entries.map Prod.fst, ∃ pair, keyOf pair = key

theorem shows_empty : empty.Shows TierMap.empty := ⟨rfl, fun _ => rfl, List.nodup_nil, List.forall_mem_nil _⟩

namespace Shows
variable {t : SharedTier} {m : TierMap} (h : t.Shows m)
include h

theorem isSome_lookup (pair : Pair) : (assocGet? (keyOf pair) t.entries).isSome = decide (pair ∈ m.held) := by
  rw [h.lookup, Bool.eq_iff_iff, decide_eq_true_iff, Finmap.lookup_isSome]

theorem size_eq : t.size = m.held.keys.card := by
  have texts : (t.entries.map Prod.fst).toFinset = m.held.keys.image keyOf := by
    ext key
    rw [List.mem_toFinset, Finset.mem_image]
    have held (pair : Pair) : keyOf pair ∈ t.entries.map Prod.fst ↔ pair ∈ m.held.keys := by
      rw [← isSome_assocGet?_iff, h.isSome_lookup, decide_eq_true_iff, Finmap.mem_keys]
    constructor
    · intro hkey
      obtain ⟨pair, rfl⟩ := h.named key hkey
      exact ⟨pair, (held pair).1 hkey, rfl⟩
    · rintro ⟨pair, hpair, rfl⟩
      exact (held pair).2 hpair
  calc t.size = (t.entries.map Prod.fst).length := (List.length_map ..).symm
    _ = (t.entries.map Prod.fst).toFinset.card := (List.toFinset_card_of_nodup h.nodup).symm
    _ = m.held.keys.card := by rw [texts, Finset.card_image_of_injective _ keyOf_injective]

theorem put (pair : Pair) (payload : ByteArray) :
    Shows { t with entries := assocPut (keyOf pair) payload t.entries } { m with held := m.held.insert pair payload } where
  offline := h.offline
  lookup other := by
    by_cases same : other = pair
    · rw [same, assocGet?_assocPut, Finmap.lookup_insert]
    · rw [assocGet?_assocPut_ne (keyOf_injective.ne same), Finmap.lookup_insert_of_ne _ same, h.lookup]
  nodup := nodup_keys_assocPut payload h.nodup
  named key hkey := by
    rcases mem_keys_assocPut payload hkey with rfl | old
    · exact ⟨pair, rfl⟩
    · exact h.named key old

theorem delete (pair : Pair) :
    Shows { t with entries := assocErase (keyOf pair) t.entries } { m with held := m.held.erase pair } where
  offline := h.offline
  lookup other := by
    by_cases same : other = pair
    · rw [same, assocGet?_assocErase, Finmap.lookup_erase]
    · rw [assocGet?_assocErase_ne (keyOf_injective.ne same), Finmap.lookup_erase_ne same, h.lookup]
  nodup := h.nodup.sublist (keys_assocErase_sublist _ _)
  named key hkey := h.named key ((keys_assocErase_sublist _ _).subset hkey)

/-- A change that the tier can take is taken by both, and by neither if they are out of reach. -/
theorem change {entries : List (String × ByteArray)} {held : Finmap fun _ : Pair => ByteArray}
    (changed : Shows { t with entries } { m with held }) :
    (t.change (t.online { t with entries })).1 = (m.change held).1 ∧
      (t.change (t.online { t with entries })).2.Shows (m.change held).2 := by
  by_cases offline : t.offline = true
  · rw [online, if_pos offline, TierMap.change, if_pos (h.offline ▸ offline)]
    exact ⟨rfl, h⟩
  · rw [online, if_neg offline, TierMap.change, if_neg (h.offline ▸ offline)]
    exact ⟨rfl, changed⟩

theorem serve (c : Call) : (t.serve c).1 = (m.serve c).1 ∧ (t.serve c).2.Shows (m.serve c).2 := by
  cases c with
  | get pair =>
    refine ⟨congrArg Answer.snapshot ?_, h⟩
    rw [SharedTier.get, online, h.offline, ← keyOf, h.lookup]
    rfl
  | put pair payload => exact h.change (h.put pair payload)
  | delete pair => exact h.change (h.delete pair)
  | contains pair => exact ⟨congrArg Answer.held (h.isSome_lookup pair), h⟩
  | size => exact ⟨congrArg Answer.size h.size_eq, h⟩
  | switch offline => exact ⟨rfl, rfl, h.lookup, h.nodup, h.named⟩

theorem serveAll (cs : List Call) : (t.serveAll cs).1 = (m.serveAll cs).1 ∧ (t.serveAll cs).2.Shows (m.serveAll cs).2 := by
  induction cs generalizing t m with
  | nil => exact ⟨rfl, h⟩
  | cons c cs ih =>
    obtain ⟨answer, next⟩ := h.serve c
    obtain ⟨answers, last⟩ := ih next
    exact ⟨congrArg₂ List.cons answer answers, last⟩

end Shows

/-- Whatever is asked of a tier that was empty at first, in whatever order, it answers as a map would, and they have the same
contents in the end. -/
theorem serveAll_eq (cs : List Call) : (empty.serveAll cs).1 = (TierMap.empty.serveAll cs).1 ∧
    (empty.serveAll cs).2.Shows (TierMap.empty.serveAll cs).2 :=
  shows_empty.serveAll cs

end SharedTier
end StrategyHost
