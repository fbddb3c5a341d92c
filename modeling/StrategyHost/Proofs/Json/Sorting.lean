import Mathlib.Data.List.Induction
import Mathlib.Data.List.Nodup
import Mathlib.Data.String.Basic
import StrategyHost.Json.Basic

/-! # Ascending fields

What `sortFields` keeps of a list of fields: under every key the last value that stands there (`find?_sortFields`), and the
whole list if its keys ascend already (`sortFields_of_ascending`). The values play no part in it (`sortFields_map`). -/

namespace StrategyHost

section Sorting
variable {α : Type} {key k : String} {v : α} {f : String × α} {fs : List (String × α)}

theorem find?_insertField : (insertField key v fs).find? (·.1 == k) =
    if key = k then some (key, v) else fs.find? (·.1 == k) := by
  induction fs with
  | nil => by_cases h : key = k <;> simp [insertField, h]
  | cons g fs ih =>
    rw [insertField]
    split_ifs with before same here <;> simp_all [List.find?_cons]
    split <;> simp_all

theorem mem_insertField (h : f ∈ insertField key v fs) : f = (key, v) ∨ f ∈ fs := by
  induction fs with
  | nil => exact .inl (List.mem_singleton.1 h)
  | cons g fs ih =>
    rw [insertField] at h
    split_ifs at h
    · exact List.mem_cons.1 h
    · rcases List.mem_cons.1 h with h | h
      · exact .inl h
      · exact .inr (List.mem_cons_of_mem _ h)
    · rcases List.mem_cons.1 h with h | h
      · exact .inr (h ▸ List.mem_cons_self ..)
      · exact (ih h).imp_right (List.mem_cons_of_mem _)

theorem insertField_last (h : ∀ g ∈ fs, g.1 < key) : insertField key v fs = fs ++ [(key, v)] := by
  induction fs with
  | nil => rfl
  | cons g fs ih =>
    have hg := h g (List.mem_cons_self ..)
    rw [insertField, if_neg hg.asymm, if_neg hg.ne', ih fun g hg => h g (List.mem_cons_of_mem _ hg), List.cons_append]

theorem sortFields_concat : sortFields (fs ++ [f]) = insertField f.1 f.2 (sortFields fs) := by
  rw [sortFields, List.foldl_append]
  rfl

/-- Of the fields with one key the last is kept. -/
theorem find?_sortFields : (sortFields fs).find? (·.1 == k) = fs.reverse.find? (·.1 == k) := by
  induction fs using List.reverseRecOn with
  | nil => rfl
  | append_singleton fs f ih =>
    rw [sortFields_concat, find?_insertField, List.reverse_append, List.reverse_singleton, List.singleton_append,
      List.find?_cons, ih]
    rcases eq_or_ne f.1 k with rfl | h
    · simp
    · simp [h, beq_false_of_ne h]

theorem insertField_map {β : Type} (g : α → β) : insertField key (g v) (fs.map fun f => (f.1, g f.2)) =
    (insertField key v fs).map fun f => (f.1, g f.2) := by
  induction fs with
  | nil => rfl
  | cons f fs ih =>
    simp only [List.map_cons, insertField, ih]
    split_ifs <;> rfl

theorem sortFields_map {β : Type} (g : α → β) : sortFields (fs.map fun f => (f.1, g f.2)) =
    (sortFields fs).map fun f => (f.1, g f.2) := by
  induction fs using List.reverseRecOn with
  | nil => rfl
  | append_singleton fs f ih =>
    rw [List.map_append, List.map_singleton, sortFields_concat, sortFields_concat, ih]
    exact insertField_map g

theorem mem_of_mem_sortFields (h : f ∈ sortFields fs) : f ∈ fs := by
  induction fs using List.reverseRecOn with
  | nil => exact h
  | append_singleton fs g ih =>
    rw [sortFields_concat] at h
    rcases mem_insertField h with rfl | h
    · exact List.mem_append_right _ (List.mem_singleton_self _)
    · exact List.mem_append_left _ (ih h)

theorem find?_sortFields_of_mem (distinct : (fs.map (·.1)).Nodup) (h : f ∈ fs) :
    (sortFields fs).find? (·.1 == f.1) = some f := by
  rw [find?_sortFields]
  cases hfind : fs.reverse.find? (·.1 == f.1) with
  | none => simpa using List.find?_eq_none.1 hfind f (List.mem_reverse.2 h)
  | some g =>
    have same : g.1 = f.1 := by simpa using List.find?_some hfind
    rw [List.inj_on_of_nodup_map distinct (List.mem_reverse.1 (List.mem_of_find?_eq_some hfind)) h same]

theorem ascending_insertField (h : fs.Pairwise fun f g => f.1 < g.1) : (insertField key v fs).Pairwise fun f g => f.1 < g.1 := by
  induction fs with
  | nil => exact List.pairwise_singleton ..
  | cons g fs ih =>
    obtain ⟨least, rest⟩ := List.pairwise_cons.1 h
    rw [insertField]
    split_ifs with before same
    · exact List.pairwise_cons.2 ⟨List.forall_mem_cons.2 ⟨before, fun f hf => before.trans (least f hf)⟩, h⟩
    · exact List.pairwise_cons.2 ⟨same ▸ least, rest⟩
    · refine List.pairwise_cons.2 ⟨fun f hf => ?_, ih rest⟩
      rcases mem_insertField hf with rfl | hf
      · exact lt_of_le_of_ne (not_lt.1 before) (Ne.symm same)
      · exact least f hf

theorem ascending_sortFields (fs : List (String × α)) : (sortFields fs).Pairwise fun f g => f.1 < g.1 := by
  induction fs using List.reverseRecOn with
  | nil => exact .nil
  | append_singleton fs f ih =>
    rw [sortFields_concat]
    exact ascending_insertField ih

/-- Fields that ascend already stay as they are. -/
theorem sortFields_of_ascending (h : fs.Pairwise fun f g => f.1 < g.1) : sortFields fs = fs := by
  induction fs using List.reverseRecOn with
  | nil => rfl
  | append_singleton fs f ih =>
    obtain ⟨ascending, -, last⟩ := List.pairwise_append.1 h
    rw [sortFields_concat, ih ascending, insertField_last fun g hg => last g hg f (List.mem_singleton_self _)]

end Sorting

end StrategyHost
