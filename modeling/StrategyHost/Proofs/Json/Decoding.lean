import StrategyHost.Proofs.Json.Reading
import StrategyHost.Proofs.Result

/-! # Values read back

A value comes back from its text just when its containers are not nested too deeply and every double in it is read back as
itself (`json_docOf`). A record comes back from its text when its fields do (`record_docOf`). -/

namespace StrategyHost.Json

theorem decodeText_compact {α : Type} (d : Decoder α) {v : Json} (hv : v.IsValue) : decodeText d v.compact = d (docOf 0 v) := by
  simp only [decodeText, readText_compact hv]
  cases d (docOf 0 v) <;> rfl

/-! ### Leaves -/

theorem string_docOf {level : ℕ} {s t : String} : Decoder.string (docOf level (.str s)) = .ok t ↔ s = t := by
  simp [Decoder.string, docOf]

theorem nat_docOf {level n m bits : ℕ} (h : n < 2 ^ bits) : Decoder.nat bits (docOf level (.ofNat n)) = .ok m ↔ n = m := by
  have high : (n : ℤ) ≤ 2 ^ bits - 1 := Int.le_sub_one_of_lt (by exact_mod_cast h)
  have number : Decoder.number (docOf level (.ofNat n)) = .ok (.int n) := rfl
  simp only [Decoder.nat, Decoder.map, Decoder.intBetween, Decoder.bind, number]
  simp [bind, Except.bind, high, Except.map]

theorem enum_docOf {α : Type} {options : List (String × α)} {name : String} {f : String × α} {level : ℕ} {a : α}
    (found : options.find? (·.1 == name) = some f) : Decoder.enum options (docOf level (.str name)) = .ok a ↔ f.2 = a := by
  simp [docOf, Decoder.enum, found]

theorem checkLevel_eq_ok {level : ℕ} : checkLevel level = .ok () ↔ level ≤ maxDepth := by
  rw [checkLevel]
  split_ifs with h
  · simpa using h
  · simpa using h

theorem checkStop_eq_ok {α : Type} {stop : Option Fault} {a b : α} : checkStop stop a = .ok b ↔ stop = none ∧ a = b := by
  cases stop <;> simp [checkStop]

theorem docItems_map {α : Type} {level : ℕ} {encode : α → Json} {xs : List α} :
    docItems level (xs.map encode) = xs.map fun x => docOf level (encode x) := by
  induction xs with
  | nil => rfl
  | cons x xs ih => rw [List.map_cons, docItems, ih, List.map_cons]

theorem list_docOf {α : Type} {level : ℕ} {d : Decoder α} {encode : α → Json} {xs : List α} (room : level + 1 ≤ maxDepth)
    (items : ∀ x ∈ xs, d (docOf (level + 1) (encode x)) = .ok x) : Decoder.list d (docOf level (.arr (xs.map encode))) = .ok xs := by
  have read : Decoder.listItems d (xs.map fun x => docOf (level + 1) (encode x)) = .ok xs := by
    clear room
    induction xs with
    | nil => rfl
    | cons x xs ih =>
      obtain ⟨first, rest⟩ := List.forall_mem_cons.1 items
      rw [List.map_cons, Decoder.listItems, first, ih rest]
      rfl
  simp only [docOf, Decoder.list, checkLevel_eq_ok.2 room, docItems_map, read]
  rfl

/-! ### Untyped values -/

mutual

/-- Whether the keys of every object ascend, as in every untyped document. -/
def IsSorted : Json → Prop
  | .arr xs => ItemsAreSorted xs
  | .obj fs => FieldsAreSorted fs ∧ fs.Pairwise fun f g => f.1 < g.1
  | _ => True

def ItemsAreSorted : List Json → Prop
  | [] => True
  | x :: xs => x.IsSorted ∧ ItemsAreSorted xs

def FieldsAreSorted : List (String × Json) → Prop
  | [] => True
  | (_, v) :: fs => v.IsSorted ∧ FieldsAreSorted fs

end

theorem keys_of_jsonFields {level : ℕ} {fs gs : List (String × Json)} (h : Decoder.jsonFields (docFields level fs) = .ok gs) :
    gs.map (·.1) = fs.map (·.1) := by
  induction fs generalizing gs with
  | nil => cases h; rfl
  | cons f fs ih =>
    obtain ⟨k, v⟩ := f
    rw [docFields, Decoder.jsonFields] at h
    obtain ⟨w, -, h⟩ := bind_eq_ok.1 h
    obtain ⟨ws, more, h⟩ := bind_eq_ok.1 h
    cases h
    rw [List.map_cons, List.map_cons, ih more]

mutual

/-- A value comes back from its text if it is not nested too deeply and its doubles are read back as themselves. -/
theorem json_docOf : ∀ {v : Json}, v.IsSorted → ∀ {level : ℕ}, level ≤ maxDepth →
    (Decoder.json (docOf level v) = .ok v ↔ level + v.depth ≤ maxDepth ∧ ∀ x ∈ v.doubles, reread x = some x)
  | .null, _, level, h | .bool _, _, level, h | .int _, _, level, h | .str _, _, level, h => by
    simp [docOf, Decoder.json, depth, doubles, h]
  | .float x, _, level, h => by
    simp only [docOf, depth, doubles, Nat.add_zero, h, true_and, List.mem_singleton, forall_eq]
    cases reread x <;> simp [Decoder.json]
  | .arr xs, hs, level, h => by
    have items (room : level + 1 ≤ maxDepth) := jsonItems_docItems hs room
    simp only [docOf, Decoder.json, bind_eq_ok, depth, doubles]
    constructor
    · rintro ⟨⟨⟩, room, ys, read, done⟩
      obtain rfl : ys = xs := by cases done; rfl
      obtain ⟨deep, kept⟩ := (items (checkLevel_eq_ok.1 room)).1 read
      exact ⟨by omega, kept⟩
    · rintro ⟨deep, kept⟩
      exact ⟨(), checkLevel_eq_ok.2 (by omega), xs, (items (by omega)).2 ⟨by omega, kept⟩, rfl⟩
  | .obj fs, hs, level, h => by
    have fields (room : level + 1 ≤ maxDepth) := jsonFields_docFields hs.1 room
    simp only [docOf, Decoder.json, bind_eq_ok, depth, doubles]
    constructor
    · rintro ⟨⟨⟩, room, gs, read, done⟩
      -- the fields that are read have the keys that were written, so they ascend as well
      have ascending : gs.Pairwise fun f g => f.1 < g.1 := by
        rw [← List.pairwise_map (f := Prod.fst), keys_of_jsonFields read, List.pairwise_map]
        exact hs.2
      rw [sortFields_of_ascending ascending] at done
      obtain rfl : gs = fs := by cases done; rfl
      obtain ⟨deep, kept⟩ := (fields (checkLevel_eq_ok.1 room)).1 read
      exact ⟨by omega, kept⟩
    · rintro ⟨deep, kept⟩
      refine ⟨(), checkLevel_eq_ok.2 (by omega), fs, (fields (by omega)).2 ⟨by omega, kept⟩, ?_⟩
      rw [sortFields_of_ascending hs.2]
      rfl

theorem jsonItems_docItems : ∀ {xs : List Json}, ItemsAreSorted xs → ∀ {level : ℕ}, level ≤ maxDepth →
    (Decoder.jsonItems (docItems level xs) = .ok xs ↔
      level + itemsDepth xs ≤ maxDepth ∧ ∀ x ∈ itemsDoubles xs, reread x = some x)
  | [], _, level, h => by simp [docItems, Decoder.jsonItems, itemsDepth, itemsDoubles, h]
  | x :: xs, hs, level, h => by
    have first := json_docOf hs.1 h
    have rest := jsonItems_docItems hs.2 h
    simp only [docItems, Decoder.jsonItems, bind_eq_ok, itemsDepth, itemsDoubles, List.mem_append, or_imp, forall_and]
    constructor
    · rintro ⟨y, readFirst, ys, readRest, done⟩
      obtain ⟨rfl, rfl⟩ : y = x ∧ ys = xs := by cases done; exact ⟨rfl, rfl⟩
      obtain ⟨deep, kept⟩ := first.1 readFirst
      obtain ⟨deeper, keptRest⟩ := rest.1 readRest
      exact ⟨by omega, kept, keptRest⟩
    · rintro ⟨deep, kept, keptRest⟩
      exact ⟨x, first.2 ⟨by omega, kept⟩, xs, rest.2 ⟨by omega, keptRest⟩, rfl⟩

theorem jsonFields_docFields : ∀ {fs : List (String × Json)}, FieldsAreSorted fs → ∀ {level : ℕ}, level ≤ maxDepth →
    (Decoder.jsonFields (docFields level fs) = .ok fs ↔
      level + fieldsDepth fs ≤ maxDepth ∧ ∀ x ∈ fieldsDoubles fs, reread x = some x)
  | [], _, level, h => by simp [docFields, Decoder.jsonFields, fieldsDepth, fieldsDoubles, h]
  | (k, v) :: fs, hs, level, h => by
    have first := json_docOf hs.1 h
    have rest := jsonFields_docFields hs.2 h
    simp only [docFields, Decoder.jsonFields, bind_eq_ok, fieldsDepth, fieldsDoubles, List.mem_append, or_imp, forall_and]
    constructor
    · rintro ⟨w, readFirst, gs, readRest, done⟩
      obtain ⟨rfl, rfl⟩ : w = v ∧ gs = fs := by cases done; exact ⟨rfl, rfl⟩
      obtain ⟨deep, kept⟩ := first.1 readFirst
      obtain ⟨deeper, keptRest⟩ := rest.1 readRest
      exact ⟨by omega, kept, keptRest⟩
    · rintro ⟨deep, kept, keptRest⟩
      exact ⟨v, first.2 ⟨by omega, kept⟩, fs, rest.2 ⟨by omega, keptRest⟩, rfl⟩

end

theorem mapFields_json (fs : List (Option String × Doc)) : Decoder.mapFields Decoder.json fs = Decoder.jsonFields fs := by
  induction fs with
  | nil => rfl
  | cons f fs ih =>
    obtain ⟨_ | k, d⟩ := f
    · rfl
    · rw [Decoder.mapFields, Decoder.jsonFields, ih]

theorem stringMap_docOf {fs : List (String × Json)} {level : ℕ} (sorted : (Json.obj fs).IsSorted) (room : level ≤ maxDepth)
    (deep : level + (Json.obj fs).depth ≤ maxDepth) (kept : ∀ x ∈ (Json.obj fs).doubles, reread x = some x) :
    Decoder.stringMap Decoder.json (docOf level (.obj fs)) = .ok fs := by
  have read := (json_docOf sorted room).2 ⟨deep, kept⟩
  simp only [docOf, Decoder.json, bind_eq_ok] at read
  obtain ⟨⟨⟩, room, gs, fields, done⟩ := read
  have ascending : sortFields gs = fs := by cases done; rfl
  simp only [docOf, Decoder.stringMap, mapFields_json, room, fields]
  exact congrArg Except.ok ascending

/-! ### Records -/

namespace Fields
variable {α β : Type} {slot : String → Slot} {level : ℕ} {fields : List (String × Json)} {names seen : List String}

theorem read_map {f : α → β} {a : Fields α} {b : β} : (f <$> a).read slot = .ok b ↔ ∃ x, a.read slot = .ok x ∧ f x = b :=
  map_eq_ok

theorem read_seq {f : Fields (α → β)} {a : Fields α} {b : β} :
    (f <*> a).read slot = .ok b ↔ ∃ g, f.read slot = .ok g ∧ ∃ x, a.read slot = .ok x ∧ g x = b := by
  change both (f.read slot) (a.read slot) = .ok b ↔ _
  cases f.read slot with
  | error e => cases a.read slot <;> simp [both]
  | ok g => cases a.read slot <;> simp [both]

theorem docFields_eq_map : docFields level fields = fields.map fun f => (some f.1, docOf level f.2) := by
  induction fields with
  | nil => rfl
  | cons f fields ih => rw [docFields, ih, List.map_cons]

theorem objectSlot_docFields (name : String) : objectSlot (docFields level fields) name =
    match fields.find? (·.1 == name) with
    | some f => .present (fields.findIdx (·.1 == name)) (docOf level f.2)
    | none => .absent (fields.length + 1) := by
  have wanted : (fun x : Option String × Doc => x.1 == some name) ∘ (fun f : String × Json => (some f.1, docOf level f.2)) =
      (·.1 == name) := by
    funext f
    simp [Option.some_beq_some]
  rw [objectSlot, docFields_eq_map, List.findIdx?_map, wanted, List.length_map]
  cases found : fields.find? (·.1 == name) with
  | none =>
    rw [List.findIdx?_eq_none_iff.2 (by simpa using List.find?_eq_none.1 found)]
  | some f =>
    rw [List.findIdx?_eq_some_of_exists ⟨f, List.mem_of_find?_eq_some found, List.find?_some found⟩]
    dsimp only
    rw [List.getElem?_map, ← List.find?_eq_getElem?_findIdx, found]
    rfl

theorem read_required {name : String} {d : Decoder α} {a : α} :
    (required name d).read (objectSlot (docFields level fields)) = .ok a ↔
      ∃ f, fields.find? (·.1 == name) = some f ∧ d (docOf level f.2) = .ok a := by
  simp only [required, objectSlot_docFields]
  cases fields.find? (·.1 == name) with
  | none => simp [located, mismatch, mapError_eq_ok]
  | some f => simp [located, mapError_eq_ok]

theorem formFault_docFields (place : ℕ) (wanted : ∀ f ∈ fields, f.1 ∈ names) (distinct : (fields.map (·.1)).Nodup)
    (unseen : ∀ f ∈ fields, f.1 ∉ seen) : formFault names seen place (docFields level fields) = none := by
  induction fields generalizing seen place with
  | nil => rfl
  | cons f fields ih =>
    obtain ⟨k, v⟩ := f
    rw [List.map_cons, List.nodup_cons] at distinct
    have here : names.contains k = true := List.contains_iff_mem.2 (wanted _ (List.mem_cons_self ..))
    have fresh : ¬ seen.contains k = true := fun h => unseen _ (List.mem_cons_self ..) (List.contains_iff_mem.1 h)
    rw [docFields, formFault, if_pos here, if_neg fresh]
    refine ih _ (fun f hf => wanted f (List.mem_cons_of_mem _ hf)) distinct.2 fun f hf => ?_
    refine List.not_mem_cons_of_ne_of_not_mem ?_ (unseen f (List.mem_cons_of_mem _ hf))
    exact fun same => distinct.1 (List.mem_map.2 ⟨f, hf, same⟩)

end Fields

theorem earlier_eq_ok {α : Type} {r : Except (ℕ × Fault) α} {f? : Option (ℕ × Fault)} {a : α} :
    earlier r f? = .ok a ↔ r = .ok a ∧ f? = none := by
  unfold earlier
  split <;> simp

/-- A record is read from the fields of a written object if they are those of the record. -/
theorem record_docOf {α : Type} {fs : Fields α} {level : ℕ} {fields : List (String × Json)} {a : α}
    (room : level + 1 ≤ maxDepth) (names : fields.map (·.1) = fs.names) (distinct : fs.names.Nodup) :
    Decoder.record fs (docOf level (.obj fields)) = .ok a ↔
      fs.read (Fields.objectSlot (docFields (level + 1) fields)) = .ok a := by
  have form : Fields.formFault fs.names [] 0 (docFields (level + 1) fields) = none :=
    Fields.formFault_docFields 0 (fun f hf => names ▸ List.mem_map_of_mem hf) (names ▸ distinct) (fun _ _ => List.not_mem_nil)
  simp only [docOf, Decoder.record, checkLevel_eq_ok.2 room, form, Option.map_none]
  change earlier _ none = _ ↔ _
  rw [earlier_eq_ok, and_iff_left rfl]

end StrategyHost.Json
