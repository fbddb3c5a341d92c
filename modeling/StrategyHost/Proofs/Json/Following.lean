import StrategyHost.Proofs.Json.Extent

/-! # Reading on

What was read from a text is read from it whatever follows, if the text itself shows where it ends. A number, a word and the
blanks behind them end with the first character that does not belong to them, so something must be left of the text; a string
ends with its quote, and an array and an object with their bracket. `reading_keeps` takes the three readers of trees together, by
induction on the fuel. -/

namespace StrategyHost.Json
variable {cs r : List Char} (more : List Char)

theorem exists_succ_of_le {fuel fuel' : ℕ} (h : fuel + 1 ≤ fuel') : ∃ n, fuel ≤ n ∧ fuel' = n + 1 :=
  ⟨fuel' - 1, by omega, by omega⟩

/-! ### Lexemes -/

theorem span_append {p : Char → Bool} (h : cs.dropWhile p ≠ []) :
    (cs ++ more).takeWhile p = cs.takeWhile p ∧ (cs ++ more).dropWhile p = cs.dropWhile p ++ more := by
  induction cs with
  | nil => exact absurd rfl h
  | cons c cs ih =>
    by_cases hc : p c = true
    · rw [List.dropWhile_cons_of_pos hc] at h
      simp [hc, ih h]
    · simp [hc]

theorem skipBlanks_append (h : skipBlanks cs ≠ []) : skipBlanks (cs ++ more) = skipBlanks cs ++ more :=
  (span_append more h).2

theorem skipBlanks_append_cons {c : Char} (h : skipBlanks cs = c :: r) : skipBlanks (cs ++ more) = c :: (r ++ more) := by
  rw [skipBlanks_append more (h ▸ List.cons_ne_nil _ _), h, List.cons_append]

theorem readWord_append {ws : List Char} (h : readWord ws cs = .ok r) : readWord ws (cs ++ more) = .ok (r ++ more) := by
  induction ws generalizing cs with
  | nil =>
    cases h
    rfl
  | cons w ws ih =>
    cases cs with
    | nil => cases h
    | cons c cs =>
      rw [readWord] at h
      rw [List.cons_append, readWord]
      split at h
      · rename_i same
        rw [if_pos same, ih h]
      · cases h

theorem readWhole_append {ds : List Char} (h : readWhole cs = .ok (ds, r)) (hr : r ≠ []) :
    readWhole (cs ++ more) = .ok (ds, r ++ more) := by
  unfold readWhole at h
  split at h
  · rename_i c rest
    split at h <;> cases h
    rename_i digit
    simp [readWhole, digit]
  · rename_i notZero
    dsimp only at h
    split at h <;> cases h
    rename_i some
    obtain ⟨taken, dropped⟩ := span_append more hr
    unfold readWhole
    split
    · rename_i c rest whole
      -- a text that goes on behind its leading zero does so without what follows, for its digits are not all of it
      rcases cs with _ | ⟨a, _ | ⟨b, cs⟩⟩
      · exact absurd rfl hr
      · obtain rfl : a = '0' := (List.cons.inj whole).1
        exact absurd rfl hr
      · cases whole
        exact absurd rfl (notZero _ _)
    · dsimp only
      rw [taken, dropped, if_neg some]

theorem readFraction_append {ds : List Char} (h : readFraction cs = .ok (ds, r)) (hr : r ≠ []) :
    readFraction (cs ++ more) = .ok (ds, r ++ more) := by
  unfold readFraction at h
  split at h
  · dsimp only at h
    split at h <;> cases h
    rename_i some
    obtain ⟨taken, dropped⟩ := span_append more hr
    simp only [List.cons_append, readFraction, taken, dropped, some]
    rfl
  · rename_i noPoint
    cases h
    cases cs with
    | nil => exact absurd rfl hr
    | cons c cs =>
      unfold readFraction
      split
      · rename_i rest same
        cases same
        exact absurd rfl (noPoint cs)
      · rfl

theorem exponentDigits_append {below : Bool} {ds : List Char} {e : Option (Bool × List Char)}
    (h : (if (ds.takeWhile isDigit).isEmpty then Except.error (faultAt ds)
      else .ok (some (below, ds.takeWhile isDigit), ds.dropWhile isDigit)) = .ok (e, r)) (hr : r ≠ []) :
    (if ((ds ++ more).takeWhile isDigit).isEmpty then Except.error (faultAt (ds ++ more))
      else .ok (some (below, (ds ++ more).takeWhile isDigit), (ds ++ more).dropWhile isDigit)) = .ok (e, r ++ more) := by
  split at h <;> cases h
  rename_i some
  obtain ⟨taken, dropped⟩ := span_append more hr
  rw [taken, dropped, if_neg some]

theorem readExponent_append {e : Option (Bool × List Char)} (h : readExponent cs = .ok (e, r)) (hr : r ≠ []) :
    readExponent (cs ++ more) = .ok (e, r ++ more) := by
  cases cs with
  | nil =>
    cases h
    exact absurd rfl hr
  | cons c cs =>
    rw [List.cons_append]
    unfold readExponent at h ⊢
    by_cases mark : c = 'e' ∨ c = 'E'
    · simp only [mark, ↓reduceIte] at h ⊢
      cases cs with
      | nil => cases h
      | cons d ds =>
        by_cases plus : d = '+'
        · subst plus
          exact exponentDigits_append more h hr
        · by_cases minus : d = '-'
          · subst minus
            exact exponentDigits_append more h hr
          · simp only [List.cons_append, plus, minus, List.cons.injEq, false_and, imp_false, not_false_eq_true, implies_true] at h ⊢
            exact exponentDigits_append more h hr
    · simp only [mark, ↓reduceIte] at h ⊢
      cases h
      rfl

theorem readNumeral_append {n : Numeral} (h : readNumeral cs = .ok (n, r)) (hr : r ≠ []) :
    readNumeral (cs ++ more) = .ok (n, r ++ more) := by
  unfold readNumeral at h
  obtain ⟨⟨whole, r₁⟩, hwhole, h⟩ := bind_eq_ok.1 h
  obtain ⟨⟨fraction, r₂⟩, hfraction, h⟩ := bind_eq_ok.1 h
  obtain ⟨⟨exponent, r₃⟩, hexponent, h⟩ := bind_eq_ok.1 h
  cases h
  have left₂ : r₂ ≠ [] := fun nothing => hr (List.suffix_nil.1 (nothing ▸ suffix_of_readExponent hexponent))
  have left₁ : r₁ ≠ [] := fun nothing => left₂ (List.suffix_nil.1 (nothing ▸ suffix_of_readFraction hfraction))
  have fraction := readFraction_append more hfraction left₂
  have exponent := readExponent_append more hexponent hr
  have whole := readWhole_append more hwhole left₁
  unfold readNumeral
  cases cs with
  | nil => cases hwhole
  | cons c cs =>
    by_cases minus : c = '-'
    · subst minus
      exact bind_eq_ok.2 ⟨_, whole, bind_eq_ok.2 ⟨_, fraction, bind_eq_ok.2 ⟨_, exponent, rfl⟩⟩⟩
    · simp only [List.cons_append, minus, List.cons.injEq, false_and, imp_false, not_false_eq_true, implies_true] at whole ⊢
      exact bind_eq_ok.2 ⟨_, whole, bind_eq_ok.2 ⟨_, fraction, bind_eq_ok.2 ⟨_, exponent, rfl⟩⟩⟩

theorem readHex4_append {n : ℕ} (h : readHex4 cs = .ok (n, r)) : readHex4 (cs ++ more) = .ok (n, r ++ more) := by
  unfold readHex4 at h
  split at h
  · split at h <;> cases h
    simp [readHex4, *]
  · cases h

/-- A code unit is read the same whatever follows, unless the text ends before it is plain whether a second one belongs to it. -/
theorem readCodeUnit_append {c? : Option Char} (h : readCodeUnit cs = .ok (c?, r)) (hr : r ≠ []) (hr' : r ≠ ['\\']) :
    readCodeUnit (cs ++ more) = .ok (c?, r ++ more) := by
  unfold readCodeUnit at h ⊢
  obtain ⟨⟨n, r₁⟩, first, h⟩ := bind_eq_ok.1 h
  refine bind_eq_ok.2 ⟨_, readHex4_append more first, ?_⟩
  dsimp only at h ⊢
  by_cases low : 0xDC00 ≤ n ∧ n ≤ 0xDFFF
  · rw [if_pos low] at h ⊢
    cases h
    rfl
  · rw [if_neg low] at h ⊢
    by_cases high : 0xD800 ≤ n ∧ n ≤ 0xDBFF
    · rw [if_pos high] at h ⊢
      split at h
      · rename_i cs'
        obtain ⟨⟨m, r₂⟩, second, h⟩ := bind_eq_ok.1 h
        refine bind_eq_ok.2 ⟨_, readHex4_append more second, ?_⟩
        dsimp only at h ⊢
        split at h
        · rename_i pair
          cases h
          rw [if_pos pair]
          rfl
        · rename_i pair
          cases h
          rw [if_neg pair]
          rfl
      · rename_i alone
        cases h
        split
        · rename_i cs' same
          rcases r with _ | ⟨a, _ | ⟨b, r⟩⟩
          · exact absurd rfl hr
          · obtain rfl : a = '\\' := (List.cons.inj same).1
            exact absurd rfl hr'
          · cases same
            exact absurd rfl (alone r)
        · rfl
    · rw [if_neg high] at h ⊢
      cases h
      rfl

theorem ne_of_readStringTail {fuel : ℕ} {valid : Bool} {acc : List Char} {s? : Option String}
    (h : readStringTail fuel valid acc cs = .ok (s?, r)) : cs ≠ [] ∧ cs ≠ ['\\'] := by
  constructor
  · rintro rfl
    cases fuel <;> cases h
  · rintro rfl
    cases fuel <;> cases h

theorem readStringTail_append {fuel fuel' : ℕ} {valid : Bool} {acc : List Char} {s? : Option String} (enough : fuel ≤ fuel')
    (h : readStringTail fuel valid acc cs = .ok (s?, r)) :
    readStringTail fuel' valid acc (cs ++ more) = .ok (s?, r ++ more) := by
  fun_induction readStringTail fuel valid acc cs generalizing fuel' with
  | case3 fuel valid acc cs =>
    cases h
    obtain ⟨fuel', room, rfl⟩ := exists_succ_of_le enough
    rfl
  | case6 fuel valid acc cs' ch r' unit _ ih =>
    obtain ⟨fuel', room, rfl⟩ := exists_succ_of_le enough
    have unit := readCodeUnit_append more unit (ne_of_readStringTail h).1 (ne_of_readStringTail h).2
    have rest := ih room h
    simp [readStringTail, unit, rest]
  | case7 fuel valid acc cs' r' unit _ ih =>
    obtain ⟨fuel', room, rfl⟩ := exists_succ_of_le enough
    have unit := readCodeUnit_append more unit (ne_of_readStringTail h).1 (ne_of_readStringTail h).2
    have rest := ih room h
    simp [readStringTail, unit, rest]
  | case8 fuel valid acc e cs' notUnit ch escape _ ih =>
    obtain ⟨fuel', room, rfl⟩ := exists_succ_of_le enough
    have rest := ih room h
    simp [readStringTail, escape, rest]
  | case11 fuel valid acc c cs quote escape control ih =>
    obtain ⟨fuel', room, rfl⟩ := exists_succ_of_le enough
    have rest := ih room h
    simp [readStringTail, quote, escape, control, rest]
  | _ => cases h

theorem readString_append {s? : Option String} (h : readString cs = .ok (s?, r)) :
    readString (cs ++ more) = .ok (s?, r ++ more) := by
  unfold readString at h
  split at h
  · refine readStringTail_append more ?_ h
    simp
  · cases h

theorem readScalar_append {d : Doc} (h : readScalar cs = (d, some r)) (hr : r ≠ []) :
    readScalar (cs ++ more) = (d, some (r ++ more)) := by
  unfold readScalar at h
  split at h
  · cases h
  iterate 3
    · split at h <;> cases h
      rename_i read
      simp only [List.cons_append, readScalar, readWord_append more read]
      rfl
  · split at h <;> cases h
    rename_i read
    have read := readString_append more read
    rw [List.cons_append] at read ⊢
    simp only [readScalar, read]
    rfl
  · rename_i c cs notNull notTrue notFalse notString
    split at h
    · rename_i digit
      split at h <;> cases h
      rename_i read
      have kind : Kind.ofChar? c = some .number := by
        rcases digit with rfl | digit
        · rfl
        · exact Kind.ofChar?_digit digit
      exact readScalar_number kind (readNumeral_append more read hr)
    · cases h

/-! ### Trees -/

def Doc.IsContainer : Doc → Prop
  | .arr .. | .obj .. => True
  | _ => False

theorem not_isContainer_of_readScalar {d : Doc} {r? : Option (List Char)} (h : readScalar cs = (d, r?)) : ¬ d.IsContainer := by
  intro container
  have container : (readScalar cs).1.IsContainer := h ▸ container
  unfold readScalar at container
  repeat' split at container
  all_goals exact container

section Trees
variable {fuel fuel' level : ℕ}

/-- A value is read the same whatever follows it, unless it ends with the text and is not closed by a bracket. -/
def ValuesKeep (fuel : ℕ) : Prop := ∀ {fuel' level : ℕ} {cs r : List Char} {d : Doc} (more : List Char), fuel ≤ fuel' →
  readValue fuel level cs = (d, some r) → (r ≠ [] ∨ d.IsContainer) → readValue fuel' level (cs ++ more) = (d, some (r ++ more))

def ItemsKeep (fuel : ℕ) : Prop := ∀ {fuel' level : ℕ} {cs r : List Char} (more : List Char), fuel ≤ fuel' →
  (readItems fuel level cs).2.2 = some r →
    readItems fuel' level (cs ++ more) = ((readItems fuel level cs).1, (readItems fuel level cs).2.1, some (r ++ more))

def FieldsKeep (fuel : ℕ) : Prop := ∀ {fuel' level : ℕ} {cs r : List Char} (more : List Char), fuel ≤ fuel' →
  (readFields fuel level cs).2.2 = some r →
    readFields fuel' level (cs ++ more) = ((readFields fuel level cs).1, (readFields fuel level cs).2.1, some (r ++ more))

theorem readItems_nil : (readItems fuel level []).2.2 = none := by
  rcases fuel with _ | _ | fuel <;> rfl

theorem readFields_nil : (readFields fuel level []).2.2 = none := by
  cases fuel <;> rfl

theorem ItemsKeep.succ (values : ValuesKeep fuel) (items : ItemsKeep fuel) : ItemsKeep (fuel + 1) := by
  intro fuel' level cs r more enough h
  obtain ⟨fuel', room, rfl⟩ := exists_succ_of_le enough
  rw [readItems] at h ⊢
  rw [readItems]
  rcases value : readValue fuel level cs with ⟨d, _ | r₁⟩ <;> rw [value] at h
  · cases h
  dsimp only at h ⊢
  rcases next : skipBlanks r₁ with _ | ⟨c, r₂⟩ <;> rw [next] at h
  · cases h
  -- a number that the text ends with might go on in what follows, but here something stands behind the value
  have goesOn : r₁ ≠ [] := by
    rintro rfl
    cases next
  rw [values more room value (.inl goesOn)]
  dsimp only
  rw [skipBlanks_append_cons more next]
  by_cases close : c = ']'
  · subst close
    cases h
    rfl
  by_cases comma : c = ','
  · subst comma
    simp only at h ⊢
    rcases item : skipBlanks r₂ with _ | ⟨c, r₃⟩ <;> rw [item] at h
    · rw [readItems_nil] at h
      cases h
    rw [skipBlanks_append_cons more item]
    by_cases close : c = ']'
    · subst close
      cases h
    simp only [close, List.cons.injEq, false_and, imp_false, not_false_eq_true, implies_true] at h ⊢
    rw [← List.cons_append, items more room h]
  · simp [close, comma] at h

theorem FieldsKeep.succ (values : ValuesKeep fuel) (fields : FieldsKeep fuel) : FieldsKeep (fuel + 1) := by
  intro fuel' level cs r more enough h
  obtain ⟨fuel', room, rfl⟩ := exists_succ_of_le enough
  rw [readFields] at h ⊢
  rw [readFields]
  rcases name : readString (skipBlanks cs) with f | ⟨key, r₀⟩ <;> rw [name] at h
  · cases h
  have starts : skipBlanks cs ≠ [] := by
    intro nothing
    rw [nothing] at name
    cases name
  rw [skipBlanks_append more starts, readString_append more name]
  dsimp only at h ⊢
  rcases colon : skipBlanks r₀ with _ | ⟨c, r₁⟩ <;> rw [colon] at h
  · cases h
  rw [skipBlanks_append_cons more colon]
  by_cases same : c = ':'
  swap
  · simp [same] at h
  subst same
  simp only at h ⊢
  rcases value : readValue fuel level r₁ with ⟨d, _ | r₂⟩ <;> rw [value] at h
  · cases h
  dsimp only at h ⊢
  rcases next : skipBlanks r₂ with _ | ⟨c, r₃⟩ <;> rw [next] at h
  · cases h
  have goesOn : r₂ ≠ [] := by
    rintro rfl
    cases next
  rw [values more room value (.inl goesOn)]
  dsimp only
  rw [skipBlanks_append_cons more next]
  by_cases close : c = '}'
  · subst close
    cases h
    rfl
  by_cases comma : c = ','
  · subst comma
    simp only at h ⊢
    have here : skipBlanks r₃ ≠ [] := by
      intro nothing
      rw [nothing, readFields_nil] at h
      cases h
    rw [skipBlanks_append more here, fields more room h]
  · simp [close, comma] at h

theorem ValuesKeep.succ (items : ItemsKeep fuel) (fields : FieldsKeep fuel) : ValuesKeep (fuel + 1) := by
  intro fuel' level cs r d more enough h goesOn
  obtain ⟨fuel', room, rfl⟩ := exists_succ_of_le enough
  rw [readValue] at h ⊢
  rcases first : skipBlanks cs with _ | ⟨c, r₁⟩ <;> rw [first] at h
  · cases h
  rw [skipBlanks_append_cons more first]
  by_cases bracket : c = '['
  · subst bracket
    simp only at h ⊢
    rcases inside : skipBlanks r₁ with _ | ⟨c, r₂⟩ <;> rw [inside] at h
    · simp [readItems_nil] at h
    rw [skipBlanks_append_cons more inside]
    by_cases close : c = ']'
    · subst close
      cases h
      rfl
    simp only [close, List.cons.injEq, false_and, imp_false, not_false_eq_true, implies_true, Prod.mk.injEq] at h ⊢
    rw [← List.cons_append, items more room h.2]
    exact ⟨h.1, rfl⟩
  by_cases brace : c = '{'
  · subst brace
    simp only at h ⊢
    rcases inside : skipBlanks r₁ with _ | ⟨c, r₂⟩ <;> rw [inside] at h
    · simp [readFields_nil] at h
    rw [skipBlanks_append_cons more inside]
    by_cases close : c = '}'
    · subst close
      cases h
      rfl
    simp only [close, List.cons.injEq, false_and, imp_false, not_false_eq_true, implies_true, Prod.mk.injEq] at h ⊢
    rw [← List.cons_append, fields more room h.2]
    exact ⟨h.1, rfl⟩
  simp only [bracket, brace, List.cons.injEq, false_and, imp_false, not_false_eq_true, implies_true] at h ⊢
  exact readScalar_append more h (goesOn.resolve_right (not_isContainer_of_readScalar h))

/-- Each of the three readers keeps its result, by the fuel that it is given. -/
theorem reading_keeps (fuel : ℕ) : ValuesKeep fuel ∧ ItemsKeep fuel ∧ FieldsKeep fuel := by
  induction fuel with
  | zero => exact ⟨nofun, nofun, nofun⟩
  | succ fuel ih =>
    obtain ⟨values, items, fields⟩ := ih
    exact ⟨ValuesKeep.succ items fields, ItemsKeep.succ values items, FieldsKeep.succ values fields⟩

end Trees

end StrategyHost.Json
