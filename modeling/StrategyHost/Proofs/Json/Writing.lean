import StrategyHost.Proofs.Json.Numeral

/-! # The text of a document tells it from every other

A string is read back from how it is written (`readString_writeString`), the first character of a value tells its kind
(`kind_eq_of_write_eq`), and a number ends where its numeral ends. Main statement: `compact_injective`, two documents whose
doubles are all finite have one text only if they are the same. -/

namespace StrategyHost.Json

/-! ### Strings -/

theorem hexValue?_hexDigit (n : ℕ) : hexValue? (hexDigit n) = some (n % 16) :=
  (by decide : ∀ m < 16, hexValue? (Nat.digitChar m) = some m) (n % 16) (Nat.mod_lt _ (by decide))

theorem readStringTail_escapeChar (fuel : ℕ) (valid : Bool) (acc : List Char) (c : Char) (rest : List Char) :
    readStringTail (fuel + 1) valid acc (escapeChar c ++ rest) = readStringTail fuel valid (c :: acc) rest := by
  unfold escapeChar
  split
  · subst c; rfl
  split
  · subst c; rfl
  split
  · subst c; rfl
  split
  · subst c; rfl
  split
  · subst c; rfl
  split
  · subst c; rfl
  split
  · subst c; rfl
  split
  · rename_i control
    have code : ((0 * 16 + 0) * 16 + c.toNat / 16 % 16) * 16 + c.toNat % 16 = c.toNat := by omega
    have low : ¬ (0xDC00 ≤ c.toNat ∧ c.toNat ≤ 0xDFFF) := by omega
    have high : ¬ (0xD800 ≤ c.toNat ∧ c.toNat ≤ 0xDBFF) := by omega
    have zero : hexValue? '0' = some 0 := by decide
    simp only [List.cons_append, List.nil_append, readStringTail, readCodeUnit, readHex4, zero, hexValue?_hexDigit, bind,
      Except.bind, code, low, high, Char.ofNat_toNat, pure, Except.pure]
    rfl
  · rename_i quote backslash _ _ _ _ _ control
    simp only [List.cons_append, List.nil_append, readStringTail, quote, backslash, control, ↓reduceIte]

theorem readStringTail_writeChars (cs : List Char) (rest acc : List Char) (fuel : ℕ) (h : cs.length < fuel) :
    readStringTail fuel true acc (writeChars cs ('"' :: rest)) = .ok (some (String.ofList (acc.reverse ++ cs)), rest) := by
  induction cs generalizing acc fuel with
  | nil =>
    obtain ⟨fuel, rfl⟩ := Nat.exists_eq_succ_of_ne_zero (Nat.ne_of_gt h)
    simp [writeChars, readStringTail]
  | cons c cs ih =>
    obtain ⟨fuel, rfl⟩ := Nat.exists_eq_succ_of_ne_zero (Nat.ne_of_gt (Nat.zero_lt_of_lt h))
    rw [writeChars, readStringTail_escapeChar, ih _ _ (Nat.lt_of_succ_lt_succ h)]
    simp

theorem escapeChar_ne_nil (c : Char) : escapeChar c ≠ [] := by
  unfold escapeChar
  repeat' split
  all_goals simp

theorem length_le_writeChars (cs rest : List Char) : cs.length + rest.length ≤ (writeChars cs rest).length := by
  induction cs with
  | nil => simp [writeChars]
  | cons c cs ih =>
    have := List.length_pos_of_ne_nil (escapeChar_ne_nil c)
    simp only [writeChars, List.length_append, List.length_cons]
    omega

/-- A string is read back from how it is written. -/
theorem readString_writeString (s : String) (rest : List Char) : readString (writeString s rest) = .ok (some s, rest) := by
  have fuel := length_le_writeChars s.toList ('"' :: rest)
  simp only [List.length_cons] at fuel
  rw [writeString, readString, readStringTail_writeChars _ _ _ _ (by omega)]
  simp

theorem writeString_inj {s t : String} {r r' : List Char} (h : writeString s r = writeString t r') : s = t ∧ r = r' := by
  have read := readString_writeString s r
  rw [h, readString_writeString] at read
  cases read
  exact ⟨rfl, rfl⟩

/-! ### Kinds of values -/

/-- What the first character of a value tells of it. -/
inductive Kind where
  | null | bool | number | string | array | object
deriving DecidableEq

def Kind.ofChar? (c : Char) : Option Kind :=
  if c = 'n' then some .null
  else if c = 't' ∨ c = 'f' then some .bool
  else if c = '"' then some .string
  else if c = '[' then some .array
  else if c = '{' then some .object
  else if c = '-' ∨ isDigit c = true then some .number
  else none

def kind : Json → Kind
  | .null => .null
  | .bool _ => .bool
  | .int _ => .number
  | .float _ => .number
  | .str _ => .string
  | .arr _ => .array
  | .obj _ => .object

section kinds

variable {v : Json}

theorem eq_null_of_kind (h : v.kind = .null) : v = .null := by
  cases v <;> first | rfl | cases h

theorem eq_bool_of_kind (h : v.kind = .bool) : ∃ b, v = .bool b := by
  cases v <;> first | exact ⟨_, rfl⟩ | cases h

theorem eq_int_or_float_of_kind (h : v.kind = .number) : (∃ n, v = .int n) ∨ ∃ x, v = .float x := by
  cases v <;> first | exact .inl ⟨_, rfl⟩ | exact .inr ⟨_, rfl⟩ | cases h

theorem eq_str_of_kind (h : v.kind = .string) : ∃ s, v = .str s := by
  cases v <;> first | exact ⟨_, rfl⟩ | cases h

theorem eq_arr_of_kind (h : v.kind = .array) : ∃ xs, v = .arr xs := by
  cases v <;> first | exact ⟨_, rfl⟩ | cases h

theorem eq_obj_of_kind (h : v.kind = .object) : ∃ fs, v = .obj fs := by
  cases v <;> first | exact ⟨_, rfl⟩ | cases h

end kinds

theorem Kind.ofChar?_digit {c : Char} (h : isDigit c = true) : Kind.ofChar? c = some .number := by
  have other : ∀ d, isDigit d = false → c ≠ d := by
    rintro d hd rfl
    exact absurd (h.symm.trans hd) (by decide)
  have ht : ¬ (c = 't' ∨ c = 'f') := not_or.2 ⟨other 't' rfl, other 'f' rfl⟩
  rw [Kind.ofChar?, if_neg (other 'n' rfl), if_neg ht, if_neg (other '"' rfl), if_neg (other '[' rfl),
    if_neg (other '{' rfl), if_pos (.inr h)]

theorem Numeral.IsPlain.head_text {n : Numeral} (plain : n.IsPlain) (r : List Char) :
    ∃ c cs, n.text ++ r = c :: cs ∧ Kind.ofChar? c = some .number := by
  unfold Numeral.text
  split
  · exact ⟨_, _, rfl, by decide⟩
  · obtain ⟨c, cs, hc⟩ := List.exists_cons_of_ne_nil plain.whole_ne
    have digit := plain.whole_digits c (hc ▸ List.mem_cons_self ..)
    exact ⟨c, _, by rw [hc]; rfl, Kind.ofChar?_digit digit⟩

mutual

/-- Whether all doubles of a document are finite, as those of every text are. -/
def isFinite : Json → Bool
  | .float x => Double.isFinite x
  | .arr xs => itemsFinite xs
  | .obj fs => fieldsFinite fs
  | _ => true

def itemsFinite : List Json → Bool
  | [] => true
  | x :: xs => x.isFinite && itemsFinite xs

def fieldsFinite : List (String × Json) → Bool
  | [] => true
  | (_, v) :: fs => v.isFinite && fieldsFinite fs

end

theorem head_write {v : Json} (hv : v.isFinite = true) (r : List Char) :
    ∃ c cs, write v r = c :: cs ∧ Kind.ofChar? c = some v.kind := by
  cases v with
  | null => exact ⟨_, _, rfl, rfl⟩
  | bool b => cases b <;> exact ⟨_, _, rfl, by decide⟩
  | int n =>
    rw [write, spellInt_eq]
    exact (isPlain_ofInt n).head_text r
  | float x =>
    obtain ⟨p, hp⟩ := Option.isSome_iff_exists.1 hv
    obtain ⟨n, hn, spells⟩ := spellFloat_eq_text hp
    rw [write, hn]
    exact spells.plain.head_text r
  | str s => exact ⟨'"', _, rfl, rfl⟩
  | arr xs => cases xs <;> exact ⟨'[', _, rfl, rfl⟩
  | obj fs => cases fs <;> exact ⟨'{', _, rfl, rfl⟩

theorem kind_eq_of_write_eq {v w : Json} (hv : v.isFinite = true) (hw : w.isFinite = true) {r r' : List Char}
    (h : write v r = write w r') : v.kind = w.kind := by
  obtain ⟨c, cs, hc, kindV⟩ := head_write hv r
  obtain ⟨d, ds, hd, kindW⟩ := head_write hw r'
  rw [hc, hd] at h
  rw [← Option.some_inj, ← kindV, ← kindW, (List.cons.inj h).1]

theorem write_ne_close {v : Json} (hv : v.isFinite = true) (r r' : List Char) : write v r ≠ ']' :: r' := by
  intro h
  obtain ⟨c, cs, hc, kindV⟩ := head_write hv r
  rw [hc] at h
  rw [(List.cons.inj h).1, (by decide : Kind.ofChar? ']' = none)] at kindV
  cases kindV

/-! ### Documents -/

theorem endsNumber_nil : EndsNumber [] := by
  intro c cs h
  cases h

theorem endsNumber_writeItems (xs : List Json) (r : List Char) : EndsNumber (writeItems xs r) := by
  intro c cs h
  cases xs <;> cases h <;> exact ⟨by decide, by decide, by decide, by decide⟩

theorem endsNumber_writeFields (fs : List (String × Json)) (r : List Char) : EndsNumber (writeFields fs r) := by
  intro c cs h
  rcases fs with _ | ⟨⟨k, v⟩, fs⟩ <;> cases h <;> exact ⟨by decide, by decide, by decide, by decide⟩

mutual

theorem write_inj : ∀ (v w : Json), v.isFinite = true → w.isFinite = true → ∀ {r r' : List Char}, EndsNumber r →
    EndsNumber r' → write v r = write w r' → v = w ∧ r = r'
  | .null, w, hv, hw, r, r', hr, hr', h => by
    obtain rfl := eq_null_of_kind (kind_eq_of_write_eq hv hw h).symm
    simp only [write, List.cons.injEq, true_and] at h
    exact ⟨rfl, h⟩
  | .bool b, w, hv, hw, r, r', hr, hr', h => by
    obtain ⟨b', rfl⟩ := eq_bool_of_kind (kind_eq_of_write_eq hv hw h).symm
    cases b <;> cases b' <;> simp only [write, List.cons.injEq, true_and] at h
    · exact ⟨rfl, h⟩
    · exact absurd h.1 (by decide)
    · exact absurd h.1 (by decide)
    · exact ⟨rfl, h⟩
  | .int n, w, hv, hw, r, r', hr, hr', h => by
    obtain ⟨m, rfl⟩ | ⟨y, rfl⟩ := eq_int_or_float_of_kind (kind_eq_of_write_eq hv hw h).symm
    · obtain ⟨rfl, rest⟩ := spellInt_inj hr hr' h
      exact ⟨rfl, rest⟩
    · exact absurd h (spellInt_ne_spellFloat hw hr hr')
  | .float x, w, hv, hw, r, r', hr, hr', h => by
    obtain ⟨m, rfl⟩ | ⟨y, rfl⟩ := eq_int_or_float_of_kind (kind_eq_of_write_eq hv hw h).symm
    · exact absurd h.symm (spellInt_ne_spellFloat hv hr' hr)
    · obtain ⟨rfl, rest⟩ := spellFloat_inj hv hw hr hr' h
      exact ⟨rfl, rest⟩
  | .str s, w, hv, hw, r, r', hr, hr', h => by
    obtain ⟨t, rfl⟩ := eq_str_of_kind (kind_eq_of_write_eq hv hw h).symm
    obtain ⟨rfl, rest⟩ := writeString_inj h
    exact ⟨rfl, rest⟩
  | .arr [], w, hv, hw, r, r', hr, hr', h => by
    obtain ⟨ys, rfl⟩ := eq_arr_of_kind (kind_eq_of_write_eq hv hw h).symm
    cases ys with
    | nil =>
      simp only [write, List.cons.injEq, true_and] at h
      exact ⟨rfl, h⟩
    | cons y ys =>
      simp only [write, List.cons.injEq, true_and] at h
      simp only [isFinite, itemsFinite, Bool.and_eq_true] at hw
      exact absurd h.symm (write_ne_close hw.1 _ _)
  | .arr (x :: xs), w, hv, hw, r, r', hr, hr', h => by
    obtain ⟨ys, rfl⟩ := eq_arr_of_kind (kind_eq_of_write_eq hv hw h).symm
    cases ys with
    | nil =>
      simp only [write, List.cons.injEq, true_and] at h
      simp only [isFinite, itemsFinite, Bool.and_eq_true] at hv
      exact absurd h (write_ne_close hv.1 _ _)
    | cons y ys =>
      simp only [write, List.cons.injEq, true_and] at h
      simp only [isFinite, itemsFinite, Bool.and_eq_true] at hv hw
      obtain ⟨rfl, more⟩ := write_inj x y hv.1 hw.1 (endsNumber_writeItems xs r) (endsNumber_writeItems ys r') h
      obtain ⟨rfl, rest⟩ := writeItems_inj xs ys hv.2 hw.2 more
      exact ⟨rfl, rest⟩
  | .obj [], w, hv, hw, r, r', hr, hr', h => by
    obtain ⟨gs, rfl⟩ := eq_obj_of_kind (kind_eq_of_write_eq hv hw h).symm
    rcases gs with _ | ⟨⟨l, w⟩, gs⟩
    · simp only [write, List.cons.injEq, true_and] at h
      exact ⟨rfl, h⟩
    · simp only [write, writeString, List.cons.injEq, true_and] at h
      exact absurd h.1 (by decide)
  | .obj ((k, v) :: fs), w, hv, hw, r, r', hr, hr', h => by
    obtain ⟨gs, rfl⟩ := eq_obj_of_kind (kind_eq_of_write_eq hv hw h).symm
    rcases gs with _ | ⟨⟨l, w⟩, gs⟩
    · simp only [write, writeString, List.cons.injEq, true_and] at h
      exact absurd h.1 (by decide)
    · simp only [write, List.cons.injEq, true_and] at h
      simp only [isFinite, fieldsFinite, Bool.and_eq_true] at hv hw
      obtain ⟨rfl, value⟩ := writeString_inj h
      obtain ⟨rfl, more⟩ := write_inj v w hv.1 hw.1 (endsNumber_writeFields fs r) (endsNumber_writeFields gs r')
        (List.cons.inj value).2
      obtain ⟨rfl, rest⟩ := writeFields_inj fs gs hv.2 hw.2 more
      exact ⟨rfl, rest⟩

theorem writeItems_inj : ∀ (xs ys : List Json), itemsFinite xs = true → itemsFinite ys = true → ∀ {r r' : List Char},
    writeItems xs r = writeItems ys r' → xs = ys ∧ r = r'
  | [], [], _, _, r, r', h => ⟨rfl, (List.cons.inj h).2⟩
  | [], _ :: _, _, _, r, r', h => absurd (List.cons.inj h).1 (by decide)
  | _ :: _, [], _, _, r, r', h => absurd (List.cons.inj h).1 (by decide)
  | x :: xs, y :: ys, hxs, hys, r, r', h => by
    simp only [itemsFinite, Bool.and_eq_true] at hxs hys
    simp only [writeItems, List.cons.injEq, true_and] at h
    obtain ⟨rfl, more⟩ := write_inj x y hxs.1 hys.1 (endsNumber_writeItems xs r) (endsNumber_writeItems ys r') h
    obtain ⟨rfl, rest⟩ := writeItems_inj xs ys hxs.2 hys.2 more
    exact ⟨rfl, rest⟩

theorem writeFields_inj : ∀ (fs gs : List (String × Json)), fieldsFinite fs = true → fieldsFinite gs = true →
    ∀ {r r' : List Char}, writeFields fs r = writeFields gs r' → fs = gs ∧ r = r'
  | [], [], _, _, r, r', h => ⟨rfl, (List.cons.inj h).2⟩
  | [], (_, _) :: _, _, _, r, r', h => absurd (List.cons.inj h).1 (by decide)
  | (_, _) :: _, [], _, _, r, r', h => absurd (List.cons.inj h).1 (by decide)
  | (k, v) :: fs, (l, w) :: gs, hfs, hgs, r, r', h => by
    simp only [fieldsFinite, Bool.and_eq_true] at hfs hgs
    simp only [writeFields, List.cons.injEq, true_and] at h
    obtain ⟨rfl, value⟩ := writeString_inj h
    obtain ⟨rfl, more⟩ := write_inj v w hfs.1 hgs.1 (endsNumber_writeFields fs r) (endsNumber_writeFields gs r')
      (List.cons.inj value).2
    obtain ⟨rfl, rest⟩ := writeFields_inj fs gs hfs.2 hgs.2 more
    exact ⟨rfl, rest⟩

end

/-- Two documents whose doubles are all finite have one text only if they are the same. -/
theorem compact_injective {v w : Json} (hv : v.isFinite = true) (hw : w.isFinite = true) (h : v.compact = w.compact) :
    v = w :=
  (write_inj v w hv hw endsNumber_nil endsNumber_nil (String.ofList_injective h)).1

end StrategyHost.Json
