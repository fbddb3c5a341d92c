import StrategyHost.Proofs.Json.Writing

/-! # The text of a document is one line

Control characters are escaped in strings and stand nowhere else (`allVisible_compact`), so that no line of a file of
documents ends inside a document. -/

namespace StrategyHost.Json

def IsVisible (c : Char) : Prop := 32 ≤ c.toNat

instance (c : Char) : Decidable (IsVisible c) := inferInstanceAs (Decidable (_ ≤ _))

def AllVisible (cs : List Char) : Prop := ∀ c ∈ cs, IsVisible c

instance (cs : List Char) : Decidable (AllVisible cs) :=
  decidable_of_iff (cs.all (32 ≤ ·.toNat) = true) (by simp [AllVisible, IsVisible])

variable {cs ds rest : List Char}

theorem allVisible_nil : AllVisible [] := fun _ h => nomatch h

theorem AllVisible.cons {c : Char} (hc : IsVisible c) (h : AllVisible cs) : AllVisible (c :: cs) :=
  List.forall_mem_cons.2 ⟨hc, h⟩

theorem AllVisible.append (h : AllVisible cs) (h' : AllVisible ds) : AllVisible (cs ++ ds) :=
  List.forall_mem_append.2 ⟨h, h'⟩

/-! ### Strings -/

theorem isVisible_hexDigit (n : ℕ) : IsVisible (hexDigit n) :=
  (by decide : ∀ m < 16, IsVisible (Nat.digitChar m)) (n % 16) (Nat.mod_lt _ (by decide))

theorem allVisible_escapeChar (c : Char) : AllVisible (escapeChar c) := by
  unfold escapeChar
  split_ifs with _ _ _ _ _ _ _ control
  · decide
  · decide
  · decide
  · decide
  · decide
  · decide
  · decide
  · have marks : AllVisible ['\\', 'u', '0', '0'] := by decide
    exact marks.append (.cons (isVisible_hexDigit _) (.cons (isVisible_hexDigit _) allVisible_nil))
  · exact .cons (Nat.le_of_not_lt control) allVisible_nil

theorem AllVisible.writeChars (h : AllVisible rest) : AllVisible (writeChars cs rest) := by
  induction cs with
  | nil => exact h
  | cons c cs ih => exact (allVisible_escapeChar c).append ih

theorem AllVisible.writeString (s : String) (h : AllVisible rest) : AllVisible (writeString s rest) :=
  .cons (by decide) (.writeChars (.cons (by decide) h))

/-! ### Numbers -/

theorem isVisible_digit {c : Char} (h : isDigit c = true) : IsVisible c := by
  simp only [isDigit, Bool.and_eq_true, decide_eq_true_eq] at h
  exact le_trans (by decide) (UInt32.le_iff_toNat_le.1 h.1)

theorem Numeral.IsPlain.allVisible_text {n : Numeral} (plain : n.IsPlain) : AllVisible n.text := by
  intro c hc
  rcases plain.mem_text hc with digit | mark
  · exact isVisible_digit digit
  · exact (by decide : AllVisible ['-', '+', '.', 'e']) c mark

theorem allVisible_spellInt (n : ℤ) : AllVisible (spellInt n) := by
  rw [spellInt_eq]
  exact (isPlain_ofInt n).allVisible_text

theorem allVisible_spellFloat (x : Float) : AllVisible (spellFloat x) := by
  cases h : Double.parts? x with
  | none =>
    rw [spellFloat, h]
    exact (by decide : AllVisible ['n', 'u', 'l', 'l'])
  | some p =>
    obtain ⟨n, hn, spells⟩ := spellFloat_eq_text h
    rw [hn]
    exact spells.plain.allVisible_text

/-! ### Documents -/

mutual

theorem AllVisible.write : ∀ (v : Json) {rest : List Char}, AllVisible rest → AllVisible (write v rest)
  | .null, _, h => .append (by decide : AllVisible ['n', 'u', 'l', 'l']) h
  | .bool true, _, h => .append (by decide : AllVisible ['t', 'r', 'u', 'e']) h
  | .bool false, _, h => .append (by decide : AllVisible ['f', 'a', 'l', 's', 'e']) h
  | .int n, _, h => (allVisible_spellInt n).append h
  | .float x, _, h => (allVisible_spellFloat x).append h
  | .str s, _, h => .writeString s h
  | .arr [], _, h => .append (by decide : AllVisible ['[', ']']) h
  | .arr (x :: xs), _, h => .cons (by decide) (.write x (.writeItems xs h))
  | .obj [], _, h => .cons (by decide) (.cons (by decide) h)
  | .obj ((k, v) :: fs), _, h => .cons (by decide) (.writeString k (.cons (by decide) (.write v (.writeFields fs h))))

theorem AllVisible.writeItems : ∀ (xs : List Json) {rest : List Char}, AllVisible rest → AllVisible (writeItems xs rest)
  | [], _, h => .cons (by decide) h
  | x :: xs, _, h => .cons (by decide) (.write x (.writeItems xs h))

theorem AllVisible.writeFields : ∀ (fs : List (String × Json)) {rest : List Char}, AllVisible rest →
    AllVisible (writeFields fs rest)
  | [], _, h => .cons (by decide) h
  | (k, v) :: fs, _, h => .cons (by decide) (.writeString k (.cons (by decide) (.write v (.writeFields fs h))))

end

/-- No control character stands in the text of a document. -/
theorem allVisible_compact (v : Json) : AllVisible v.compact.toList := by
  rw [compact, String.toList_ofList]
  exact .write v allVisible_nil

end StrategyHost.Json
