import Mathlib.Data.List.TakeWhile
import StrategyHost.Proofs.Json.Following

/-! # Documents read whole

A text that cannot be read on leaves a fault in its document (`valueEnds_readValue`), and a decoder that looks at all of a document
meets it (`Decoder.IsWhole`). A record is read whole if its fields are: other fields are skipped, but not their faults
(`Decoder.IsWhole.record`). So a record that was read from a text is read from it with blanks before it, and nothing but blanks may
follow it (`decodeText_blanks`, `decodeText_append`). -/

namespace StrategyHost.Json

/-! ### Faults that are left -/

section
variable {level : ℕ} {items : List Doc} {fields : List (Option String × Doc)} {stop : Option Fault}

theorem skipItems_eq_none : skip.skipItems items = none ↔ ∀ d ∈ items, skip d = none := by
  induction items with
  | nil => simp [skip.skipItems]
  | cons d items ih =>
    rw [skip.skipItems, List.forall_mem_cons, ← ih]
    cases skip d <;> simp

theorem skipFields_eq_none : skip.skipFields fields = none ↔ ∀ f ∈ fields, skip f.2 = none := by
  induction fields with
  | nil => simp [skip.skipFields]
  | cons f fields ih =>
    rw [skip.skipFields, List.forall_mem_cons, ← ih]
    cases skip f.2 <;> simp

theorem skip_arr_eq_none : skip (.arr level items stop) = none ↔ (∀ d ∈ items, skip d = none) ∧ stop = none := by
  rw [skip, ← skipItems_eq_none]
  cases skip.skipItems items <;> simp

theorem skip_obj_eq_none : skip (.obj level fields stop) = none ↔ (∀ f ∈ fields, skip f.2 = none) ∧ stop = none := by
  rw [skip, ← skipFields_eq_none]
  cases skip.skipFields fields <;> simp

end

/-- Whether a value was read to its end, unless a fault is left in its document. -/
def ValueEnds (result : Doc × Option (List Char)) : Prop := skip result.1 = none → result.2.isSome

def ItemsEnd (result : List Doc × Option Fault × Option (List Char)) : Prop :=
  (∀ d ∈ result.1, skip d = none) → result.2.1 = none → result.2.2.isSome

def FieldsEnd (result : List (Option String × Doc) × Option Fault × Option (List Char)) : Prop :=
  (∀ f ∈ result.1, skip f.2 = none) → result.2.1 = none → result.2.2.isSome

theorem ValueEnds.leaf (d : Doc) (rest : List Char) : ValueEnds (leaf d rest) := fun _ => rfl

theorem ValueEnds.halt (f : Fault) : ValueEnds (halt f) := nofun

theorem valueEnds_readScalar (cs : List Char) : ValueEnds (readScalar cs) := by
  unfold readScalar
  repeat' split
  all_goals first
    | exact .leaf _ _
    | exact .halt _

section
variable {fuel level : ℕ} {cs : List Char}

theorem valueEnds_succ (items : ∀ level cs, ItemsEnd (readItems fuel level cs))
    (fields : ∀ level cs, FieldsEnd (readFields fuel level cs)) : ValueEnds (readValue (fuel + 1) level cs) := by
  rw [readValue]
  split
  · split
    · exact .leaf _ _
    · intro h
      obtain ⟨whole, stop⟩ := skip_arr_eq_none.1 h
      exact items _ _ whole stop
  · split
    · exact .leaf _ _
    · intro h
      obtain ⟨whole, stop⟩ := skip_obj_eq_none.1 h
      exact fields _ _ whole stop
  · exact valueEnds_readScalar _

theorem itemsEnd_succ (values : ∀ level cs, ValueEnds (readValue fuel level cs))
    (items : ∀ level cs, ItemsEnd (readItems fuel level cs)) : ItemsEnd (readItems (fuel + 1) level cs) := by
  have value := values level cs
  rw [readItems]
  split
  · rename_i d there
    intro whole _
    rw [there] at value
    exact value (whole d (List.mem_singleton_self d))
  · split
    · exact fun _ _ => rfl
    · split
      · exact fun _ stop => absurd stop (Option.some_ne_none _)
      · exact fun whole stop => items _ _ (List.forall_mem_cons.1 whole).2 stop
    · exact fun _ stop => absurd stop (Option.some_ne_none _)

theorem fieldsEnd_succ (values : ∀ level cs, ValueEnds (readValue fuel level cs))
    (fields : ∀ level cs, FieldsEnd (readFields fuel level cs)) : FieldsEnd (readFields (fuel + 1) level cs) := by
  rw [readFields]
  split
  · exact fun _ stop => absurd stop (Option.some_ne_none _)
  · split
    · rename_i r _
      have value := values level r
      split
      · rename_i d there
        intro whole _
        rw [there] at value
        exact value (whole _ (List.mem_singleton_self _))
      · split
        · exact fun _ _ => rfl
        · exact fun whole stop => fields _ _ (List.forall_mem_cons.1 whole).2 stop
        · exact fun _ stop => absurd stop (Option.some_ne_none _)
    · intro whole
      cases whole _ (List.mem_singleton_self _)

end

/-- What cannot be read to its end leaves a fault in its document. -/
theorem valueEnds_readValue (fuel level : ℕ) (cs : List Char) : ValueEnds (readValue fuel level cs) := by
  have all : (∀ level cs, ValueEnds (readValue fuel level cs)) ∧ (∀ level cs, ItemsEnd (readItems fuel level cs)) ∧
      ∀ level cs, FieldsEnd (readFields fuel level cs) := by
    induction fuel with
    | zero => exact ⟨fun _ _ => .halt _, fun _ _ _ => nofun, fun _ _ _ => nofun⟩
    | succ fuel ih =>
      obtain ⟨values, items, fields⟩ := ih
      exact ⟨fun _ _ => valueEnds_succ items fields, fun _ _ => itemsEnd_succ values items, fun _ _ => fieldsEnd_succ values fields⟩
  exact all.1 level cs

/-! ### Decoders that meet it -/

variable {α β : Type}

/-- Whether a decoder looks at all of the documents that it accepts. -/
def Decoder.IsWhole (dec : Decoder α) : Prop := ∀ doc a, dec doc = .ok a → skip doc = none

namespace Decoder.IsWhole

theorem string : Decoder.string.IsWhole := by
  intro doc s h
  rw [string_eq_ok h]
  rfl

theorem number : Decoder.number.IsWhole := by
  intro doc v h
  unfold Decoder.number at h
  split at h
  · rfl
  · exact absurd h not_unexpected

protected theorem bind {dec : Decoder α} (whole : dec.IsWhole) (f : α → Except Fault β) : (dec.bind f).IsWhole := by
  intro doc b h
  obtain ⟨a, read, -⟩ := bind_eq_ok.1 h
  exact whole doc a read

protected theorem map {dec : Decoder α} (whole : dec.IsWhole) (f : α → β) : (dec.map f).IsWhole := by
  intro doc b h
  obtain ⟨a, read, -⟩ := map_eq_ok.1 h
  exact whole doc a read

theorem nat (bits : ℕ) : (Decoder.nat bits).IsWhole := (number.bind _).map _

theorem enum (options : List (String × α)) : (Decoder.enum options).IsWhole := by
  intro doc a h
  unfold Decoder.enum at h
  split at h
  · rfl
  · cases h
  · cases h
  · obtain ⟨-, -, body⟩ := bind_eq_ok.1 h
    clear h
    split at body
    · cases body
    · cases body
    · split at body
      · cases body
      · split at body
        · split at body
          · rename_i more
            obtain ⟨rfl, -⟩ := checkStop_eq_ok.1 body
            obtain rfl := List.isEmpty_iff.1 more
            exact skip_obj_eq_none.2 ⟨by simp [skip], rfl⟩
          · cases body
        · exact absurd body not_unexpected
  · cases h

end Decoder.IsWhole

mutual

theorem skip_eq_none_of_json : ∀ {doc : Doc} {v : Json}, Decoder.json doc = .ok v → skip doc = none
  | .null, _, _ | .bool _, _, _ | .num (some _), _, _ | .str (some _), _, _ => rfl
  | .arr level items stop, _, h => by
    obtain ⟨-, -, h⟩ := bind_eq_ok.1 h
    obtain ⟨xs, read, h⟩ := bind_eq_ok.1 h
    exact skip_arr_eq_none.2 ⟨skip_eq_none_of_jsonItems read, (checkStop_eq_ok.1 h).1⟩
  | .obj level fields stop, _, h => by
    obtain ⟨-, -, h⟩ := bind_eq_ok.1 h
    obtain ⟨fs, read, h⟩ := bind_eq_ok.1 h
    exact skip_obj_eq_none.2 ⟨skip_eq_none_of_jsonFields read, (checkStop_eq_ok.1 h).1⟩

theorem skip_eq_none_of_jsonItems : ∀ {items : List Doc} {xs : List Json}, Decoder.jsonItems items = .ok xs →
    ∀ d ∈ items, skip d = none
  | [], _, _ => nofun
  | d :: items, _, h => by
    obtain ⟨x, first, h⟩ := bind_eq_ok.1 h
    obtain ⟨xs, rest, -⟩ := bind_eq_ok.1 h
    exact List.forall_mem_cons.2 ⟨skip_eq_none_of_json first, skip_eq_none_of_jsonItems rest⟩

theorem skip_eq_none_of_jsonFields : ∀ {fields : List (Option String × Doc)} {fs : List (String × Json)},
    Decoder.jsonFields fields = .ok fs → ∀ f ∈ fields, skip f.2 = none
  | [], _, _ => nofun
  | (none, d) :: fields, _, h => nomatch h
  | (some k, d) :: fields, _, h => by
    obtain ⟨x, first, h⟩ := bind_eq_ok.1 h
    obtain ⟨xs, rest, -⟩ := bind_eq_ok.1 h
    exact List.forall_mem_cons.2 ⟨skip_eq_none_of_json first, skip_eq_none_of_jsonFields rest⟩

end

theorem Decoder.IsWhole.json : Decoder.json.IsWhole := fun _ _ => skip_eq_none_of_json

/-! ### Records -/

namespace Fields
variable {names seen : List String} {fields : List (Option String × Doc)}

/-- Whether a record is read from the whole of what its slots hold. -/
def IsWhole (fs : Fields α) : Prop := ∀ slot a, fs.read slot = .ok a → ∀ name ∈ fs.names, ∀ place doc,
  slot name = .present place doc → skip doc = none

theorem IsWhole.required {dec : Decoder α} (whole : dec.IsWhole) (name : String) : (required name dec).IsWhole := by
  intro slot a read name' named place doc there
  obtain rfl : name' = name := List.mem_singleton.1 named
  obtain ⟨place', doc', there', read⟩ := read_required_eq_ok.1 read
  rw [there] at there'
  cases there'
  exact whole doc a read

theorem IsWhole.map {a : Fields α} (whole : a.IsWhole) (f : α → β) : (f <$> a).IsWhole := by
  intro slot b read
  obtain ⟨x, read, -⟩ := read_map.1 read
  exact whole slot x read

theorem IsWhole.seq {f : Fields (α → β)} {a : Fields α} (hf : f.IsWhole) (ha : a.IsWhole) : (f <*> a).IsWhole := by
  intro slot b read name named
  obtain ⟨g, first, x, second, -⟩ := read_seq.1 read
  rcases List.mem_append.1 named with named | named
  · exact hf slot g first name named
  · exact ha slot x second name named

/-- In an object without a fault of form a field holds no fault either, or it is the only one of a name that is wanted. -/
theorem formFault_eq_none {place : ℕ} (h : formFault names seen place fields = none) {i : ℕ} {f : Option String × Doc}
    (there : fields[i]? = some f) :
    skip f.2 = none ∨ ∃ k ∈ names, k ∉ seen ∧ f.1 = some k ∧ fields.findIdx? (·.1 == some k) = some i := by
  induction fields generalizing seen place i with
  | nil => cases there
  | cons g fields ih =>
    obtain ⟨_ | k, d⟩ := g
    · cases h
    -- a wanted name is found at a later place only if the first field does not have it
    have behind {k' : String} {i : ℕ} (other : k' ≠ k) (found : fields.findIdx? (·.1 == some k') = some i) :
        ((some k, d) :: fields).findIdx? (·.1 == some k') = some (i + 1) := by
      simp [List.findIdx?_cons, found, other.symm]
    rw [formFault] at h
    by_cases wanted : names.contains k = true
    · rw [if_pos wanted] at h
      by_cases repeated : seen.contains k = true
      · rw [if_pos repeated] at h
        cases h
      rw [if_neg repeated] at h
      cases i with
      | zero =>
        obtain rfl : (some k, d) = f := Option.some.inj there
        right
        refine ⟨k, List.contains_iff_mem.1 wanted, fun old => repeated (List.contains_iff_mem.2 old), rfl, ?_⟩
        simp [List.findIdx?_cons]
      | succ i =>
        refine (ih h there).imp_right ?_
        rintro ⟨k', here, unseen, named, found⟩
        obtain ⟨other, unseen⟩ := not_or.1 (fun old => unseen (List.mem_cons.2 old))
        exact ⟨k', here, unseen, named, behind other found⟩
    · rw [if_neg wanted] at h
      split at h
      · cases h
      rename_i whole
      cases i with
      | zero =>
        obtain rfl : (some k, d) = f := Option.some.inj there
        exact .inl whole
      | succ i =>
        refine (ih h there).imp_right ?_
        rintro ⟨k', here, unseen, named, found⟩
        refine ⟨k', here, unseen, named, behind ?_ found⟩
        rintro rfl
        exact wanted (List.contains_iff_mem.2 here)

end Fields

theorem Decoder.IsWhole.record {fs : Fields α} (whole : fs.IsWhole) (distinct : fs.names.Nodup) : (Decoder.record fs).IsWhole := by
  intro doc a h
  unfold Decoder.record at h
  split at h
  · rename_i level fields stop
    obtain ⟨-, -, body⟩ := bind_eq_ok.1 h
    obtain ⟨read, form⟩ := earlier_eq_ok.1 body
    split at form
    · cases form
    rename_i clean
    refine skip_obj_eq_none.2 ⟨fun f member => ?_, Option.map_eq_none_iff.1 form⟩
    obtain ⟨i, there⟩ := List.mem_iff_getElem?.1 member
    rcases Fields.formFault_eq_none clean there with skipped | ⟨k, wanted, -, named, found⟩
    · exact skipped
    · refine whole _ a read k wanted i f.2 ?_
      rw [Fields.objectSlot, found]
      dsimp only
      rw [there]
  · rename_i level items stop
    obtain ⟨-, -, body⟩ := bind_eq_ok.1 h
    obtain ⟨read, form⟩ := earlier_eq_ok.1 body
    have form := Option.map_eq_none_iff.1 form
    split at form
    · cases form
    split at form
    · cases form
    rename_i few
    refine skip_arr_eq_none.2 ⟨fun d member => ?_, rfl⟩
    obtain ⟨i, inside, there⟩ := List.mem_iff_getElem.1 member
    have named : i < fs.names.length := inside.trans_le (Nat.le_of_not_lt few)
    refine whole _ a read fs.names[i] (List.getElem_mem named) i d ?_
    have place : fs.names.findIdx (· == fs.names[i]) = i := distinct.idxOf_getElem i named
    have here : items[i]? = some d := (List.getElem?_eq_getElem inside).trans (congrArg some there)
    simp only [Fields.arraySlot, place, here]
  · exact absurd h not_unexpected

/-! ### Texts of records -/

theorem isContainer_of_record {fs : Fields α} {doc : Doc} {a : α} (h : Decoder.record fs doc = .ok a) : doc.IsContainer := by
  unfold Decoder.record at h
  split at h
  · trivial
  · trivial
  · exact absurd h not_unexpected

theorem readValue_strange {fuel level : ℕ} {cs r : List Char} {c : Char} (first : skipBlanks cs = c :: r)
    (strange : Kind.ofChar? c = none) : readValue (fuel + 1) level cs = halt .malformed := by
  have other (d : Char) (h : Kind.ofChar? d ≠ none) : c ≠ d := by
    rintro rfl
    exact h strange
  have number : ¬ (c = '-' ∨ isDigit c = true) := by
    rintro (rfl | digit)
    · cases strange
    · rw [Kind.ofChar?_digit digit] at strange
      cases strange
  rw [readValue, first]
  simp [readScalar, other '[' (by decide), other '{' (by decide), other 'n' (by decide), other 't' (by decide),
    other 'f' (by decide), other '"' (by decide), number]

section
variable {fs : Fields α} {cs : List Char} {a : α}

theorem decodeText_strange {c : Char} {r : List Char} (first : skipBlanks cs = c :: r) (strange : Kind.ofChar? c = none) :
    decodeText (.record fs) (String.ofList cs) = .error .malformed := by
  rw [decodeText, readText, String.toList_ofList, readValue_strange first strange]
  rfl

variable (whole : fs.IsWhole) (distinct : fs.names.Nodup)
include whole distinct

theorem decodeText_record : decodeText (.record fs) (String.ofList cs) = .ok a ↔ ∃ doc rest,
    readValue (2 * cs.length + 1) 0 cs = (doc, some rest) ∧ Decoder.record fs doc = .ok a ∧ skipBlanks rest = [] := by
  have ends := valueEnds_readValue (2 * cs.length + 1) 0 cs
  simp only [decodeText, readText, String.toList_ofList, bind_eq_ok, checkStop_eq_ok]
  rcases value : readValue (2 * cs.length + 1) 0 cs with ⟨doc, _ | rest⟩
  · constructor
    · rintro ⟨x, read, -, -⟩
      rw [value] at ends
      cases ends (Decoder.IsWhole.record whole distinct _ _ read)
    · rintro ⟨_, _, ⟨⟩, _⟩
  · simp

theorem decodeText_blanks {blanks : List Char} (blank : ∀ c ∈ blanks, isBlank c = true)
    (h : decodeText (.record fs) (String.ofList cs) = .ok a) : decodeText (.record fs) (String.ofList (blanks ++ cs)) = .ok a := by
  obtain ⟨doc, rest, value, read, ended⟩ := (decodeText_record whole distinct).1 h
  refine (decodeText_record whole distinct).2 ⟨doc, rest, ?_, read, ended⟩
  have skips : skipBlanks (blanks ++ cs) = skipBlanks cs := List.dropWhile_append_of_pos blank
  have enough : 2 * cs.length + 1 ≤ 2 * (blanks ++ cs).length + 1 := by simp
  have value := (reading_keeps _).1 [] enough value (.inr (isContainer_of_record read))
  rw [List.append_nil, List.append_nil] at value
  rw [← value, readValue, readValue, skips]

/-- Behind a record stands nothing but blanks. -/
theorem decodeText_append (more : List Char) (h : decodeText (.record fs) (String.ofList cs) = .ok a) :
    decodeText (.record fs) (String.ofList (cs ++ more)) = if (skipBlanks more).isEmpty then .ok a else .error .malformed := by
  obtain ⟨doc, rest, value, read, ended⟩ := (decodeText_record whole distinct).1 h
  have enough : 2 * cs.length + 1 ≤ 2 * (cs ++ more).length + 1 := by simp
  have value := (reading_keeps _).1 more enough value (.inr (isContainer_of_record read))
  have skips : skipBlanks (rest ++ more) = skipBlanks more := List.dropWhile_append_of_pos (List.dropWhile_eq_nil_iff.1 ended)
  simp only [decodeText, readText, String.toList_ofList, value, skips, read]
  cases (skipBlanks more).isEmpty <;> rfl

end

end StrategyHost.Json
