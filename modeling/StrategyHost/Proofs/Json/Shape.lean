import Mathlib.Data.List.TakeWhile
import StrategyHost.Json.Decoder
import StrategyHost.Proofs.Json.Decoding

/-! # What a document looks like without its texts

JSON is written in ASCII but for what stands in its strings. So `Doc.shape`, a document without its texts, depends on the ASCII characters
of the text that it is read from and on the places of the others (`readText_veil`): each reader gives the same on a text whose other
characters are veiled, and what it leaves of the text is veiled. `read_veil` takes the three readers of trees together, by induction on
the fuel. -/

namespace StrategyHost.Json

mutual

/-- A document without its texts. -/
def Doc.shape : Doc → Doc
  | .str _ => .str none
  | .arr level items stop => .arr level (itemsShape items) stop
  | .obj level fields stop => .obj level (fieldsShape fields) stop
  | d => d

def itemsShape : List Doc → List Doc
  | [] => []
  | d :: ds => d.shape :: itemsShape ds

def fieldsShape : List (Option String × Doc) → List (Option String × Doc)
  | [] => []
  | (_, d) :: fs => (none, d.shape) :: fieldsShape fs

end

mutual

theorem skip_shape : ∀ d : Doc, skip d.shape = skip d
  | .arr level items stop => by rw [Doc.shape, skip, skip, skipItems_shape items]
  | .obj level fields stop => by rw [Doc.shape, skip, skip, skipFields_shape fields]
  | .str _ | .null | .bool _ | .num _ | .broken _ => rfl

theorem skipItems_shape : ∀ ds : List Doc, skip.skipItems (itemsShape ds) = skip.skipItems ds
  | [] => rfl
  | d :: ds => by rw [itemsShape, skip.skipItems, skip.skipItems, skip_shape d, skipItems_shape ds]

theorem skipFields_shape : ∀ fs : List (Option String × Doc), skip.skipFields (fieldsShape fs) = skip.skipFields fs
  | [] => rfl
  | (_, d) :: fs => by rw [fieldsShape, skip.skipFields, skip.skipFields, skip_shape d, skipFields_shape fs]

end

/-- One character in the place of all that are not ASCII. -/
def veil (c : Char) : Char := if c.toNat < 128 then c else '\u0080'

theorem veil_of_lt {c : Char} (h : c.toNat < 128) : veil c = c := if_pos h

theorem veil_eq_iff {c x : Char} (h : x.toNat < 128) : veil c = x ↔ c = x := by
  unfold veil
  split
  · rfl
  · rename_i beyond
    constructor
    · rintro rfl
      exact absurd h (by decide)
    · rintro rfl
      exact absurd h beyond

theorem veil_ne {c x : Char} (other : ¬ c = x) (h : x.toNat < 128) : ¬ veil c = x := mt (veil_eq_iff h).1 other

theorem isBlank_veil (c : Char) : isBlank (veil c) = isBlank c := by
  simp (disch := decide) only [isBlank, veil_eq_iff]

theorem isDigit_veil (c : Char) : isDigit (veil c) = isDigit c := by
  unfold veil
  split
  · rfl
  · rename_i beyond
    have : isDigit c = false := by
      have big : '9' < c := by
        rw [Char.lt_def, UInt32.lt_iff_toNat_lt]
        exact Nat.lt_of_lt_of_le (by decide) (Nat.not_lt.1 beyond)
      simp [isDigit, not_le.2 big]
    rw [this]
    decide

theorem hexValue?_veil (c : Char) : hexValue? (veil c) = hexValue? c := by
  unfold veil
  split
  · rfl
  · rename_i beyond
    have big {x : Char} (h : x.toNat < 128) : ¬ c ≤ x := by
      rw [not_le, Char.lt_def, UInt32.lt_iff_toNat_lt]
      exact Nat.lt_of_lt_of_le h (Nat.not_lt.1 beyond)
    simp (disch := decide) only [hexValue?, big, and_false, if_false]
    decide

theorem skipBlanks_veil (cs : List Char) : skipBlanks (cs.map veil) = (skipBlanks cs).map veil := by
  rw [skipBlanks, List.dropWhile_map]
  exact congrArg (fun p => (cs.dropWhile p).map veil) (funext isBlank_veil)

theorem afterDigits_veil (cs : List Char) : (cs.map veil).dropWhile isDigit = (cs.dropWhile isDigit).map veil := by
  rw [List.dropWhile_map]
  exact congrArg (fun p => (cs.dropWhile p).map veil) (funext isDigit_veil)

theorem veil_of_isDigit {c : Char} (h : isDigit c = true) : veil c = c := by
  refine veil_of_lt ?_
  simp only [isDigit, Bool.and_eq_true, decide_eq_true_eq, Char.le_def, UInt32.le_iff_toNat_le] at h
  exact Nat.lt_of_le_of_lt h.2 (by decide)

theorem digits_veil (cs : List Char) : (cs.map veil).takeWhile isDigit = cs.takeWhile isDigit := by
  rw [List.takeWhile_map, show isDigit ∘ veil = isDigit from funext isDigit_veil]
  exact (List.map_congr_left fun c hc => veil_of_isDigit (List.mem_takeWhile_imp hc)).trans (List.map_id _)

theorem faultAt_veil (cs : List Char) : faultAt (cs.map veil) = faultAt cs := by
  cases cs <;> rfl

/-! ### Lexemes -/

/-- What a reader gives, with the rest of the text veiled. -/
def veilRest {α : Type} : Except Fault (α × List Char) → Except Fault (α × List Char)
  | .ok (a, rest) => .ok (a, rest.map veil)
  | .error f => .error f

theorem veilRest_bind {α β : Type} {x : Except Fault (α × List Char)} {f g : α × List Char → Except Fault (β × List Char)}
    (h : ∀ a rest, f (a, rest.map veil) = veilRest (g (a, rest))) : (veilRest x >>= f) = veilRest (x >>= g) := by
  rcases x with fault | ⟨a, rest⟩
  · rfl
  · exact h a rest

theorem readWord_veil {ws : List Char} (plain : ∀ w ∈ ws, w.toNat < 128) (cs : List Char) :
    readWord ws (cs.map veil) = (readWord ws cs).map (List.map veil) := by
  induction ws generalizing cs with
  | nil => rfl
  | cons w ws ih =>
    cases cs with
    | nil => rfl
    | cons c cs =>
      simp only [List.map_cons, readWord, veil_eq_iff (plain w List.mem_cons_self)]
      split
      · exact ih (fun w hw => plain w (List.mem_cons_of_mem _ hw)) cs
      · rfl

theorem readHex4_veil (cs : List Char) : readHex4 (cs.map veil) = veilRest (readHex4 cs) := by
  rcases cs with _ | ⟨a, _ | ⟨b, _ | ⟨c, _ | ⟨d, cs⟩⟩⟩⟩
  iterate 4 rfl
  simp only [List.map_cons, readHex4, hexValue?_veil]
  split <;> rfl

theorem readCodeUnit_veil (cs : List Char) : readCodeUnit (cs.map veil) = veilRest (readCodeUnit cs) := by
  unfold readCodeUnit
  rw [readHex4_veil]
  refine veilRest_bind fun n cs => ?_
  dsimp only
  split
  · rfl
  split
  swap
  · rfl
  rcases cs with _ | ⟨a, cs⟩
  · rfl
  by_cases escape : a = '\\'
  swap
  · simp only [List.map_cons, veil_ne escape (by decide), escape, List.cons.injEq, false_and, imp_false, not_false_eq_true,
      implies_true]
    rfl
  subst escape
  rcases cs with _ | ⟨b, cs⟩
  · rfl
  by_cases unit : b = 'u'
  swap
  · simp only [List.map_cons, veil_ne unit (by decide), unit, List.cons.injEq, false_and, and_false, imp_false, not_false_eq_true,
      implies_true]
    rfl
  subst unit
  show (readHex4 (cs.map veil) >>= _) = veilRest (readHex4 cs >>= _)
  rw [readHex4_veil]
  refine veilRest_bind fun m cs => ?_
  dsimp only
  split <;> rfl

theorem unescape?_veil (c : Char) : unescape? (veil c) = unescape? c := by
  unfold veil
  split
  · rfl
  · rename_i beyond
    have nothing : unescape? c = none := by
      unfold unescape?
      split <;> first | exact absurd (by decide) beyond | rfl
    rw [nothing]
    rfl

theorem control_veil (c : Char) : (veil c).toNat < 32 ↔ c.toNat < 32 := by
  unfold veil
  split
  · rfl
  · exact iff_of_false (by decide) (by omega)

-- `valid` and the characters read so far differ as soon as a veiled character stands in the string, so the induction has both free
theorem readStringTail_veil (fuel : ℕ) (valid valid' : Bool) (acc acc' cs : List Char) :
    (readStringTail fuel valid acc (cs.map veil)).map Prod.snd = (readStringTail fuel valid' acc' cs).map fun read => read.2.map veil := by
  induction fuel generalizing valid valid' acc acc' cs with
  | zero => rfl
  | succ fuel ih =>
    rcases cs with _ | ⟨c, cs⟩
    · rfl
    simp (disch := decide) only [List.map_cons, readStringTail, veil_eq_iff, control_veil]
    -- quote, escape and control character are ASCII, and all else goes on
    by_cases quote : c = '"'
    · simp only [quote, if_true]
      rfl
    by_cases escape : c = '\\'
    swap
    · simp only [quote, escape, if_false]
      split
      · rfl
      · exact ih ..
    subst escape
    simp only [quote, if_true, if_false]
    rcases cs with _ | ⟨e, cs⟩
    · rfl
    by_cases code : e = 'u'
    · subst code
      have unit := readCodeUnit_veil cs
      simp only [List.map_cons, veil_of_lt (c := 'u') (by decide), unit]
      rcases readCodeUnit cs with f | ⟨_ | c, cs⟩
      · rfl
      · exact ih ..
      · exact ih ..
    · simp only [List.map_cons, veil_ne code (by decide), imp_false, not_false_eq_true, unescape?_veil]
      split
      · exact ih ..
      · rfl

theorem readString_veil (cs : List Char) :
    (∃ f, readString cs = .error f ∧ readString (cs.map veil) = .error f) ∨
      ∃ s t r, readString cs = .ok (s, r) ∧ readString (cs.map veil) = .ok (t, r.map veil) := by
  have same : (readString (cs.map veil)).map Prod.snd = (readString cs).map fun read => read.2.map veil := by
    rcases cs with _ | ⟨c, cs⟩
    · rfl
    by_cases quote : c = '"'
    · subst quote
      show (readStringTail ((cs.map veil).length + 1) true [] (cs.map veil)).map Prod.snd = _
      rw [List.length_map]
      exact readStringTail_veil ..
    · simp only [readString, List.map_cons, veil_ne quote (by decide), quote, List.cons.injEq, false_and, imp_false,
        not_false_eq_true, implies_true]
      rfl
  rcases plain : readString cs with f | ⟨s, r⟩ <;> rcases veiled : readString (cs.map veil) with f' | ⟨t, r'⟩ <;>
    rw [plain, veiled] at same <;> cases same
  · exact .inl ⟨f, rfl, rfl⟩
  · exact .inr ⟨s, t, r, rfl, rfl⟩

/-- Digits, if there are any, and what follows them. -/
theorem digitsOrFault_veil {α : Type} (value : List Char → α) (cs : List Char) :
    (if ((cs.map veil).takeWhile isDigit).isEmpty then Except.error (faultAt (cs.map veil))
      else .ok (value ((cs.map veil).takeWhile isDigit), (cs.map veil).dropWhile isDigit)) =
    veilRest (if (cs.takeWhile isDigit).isEmpty then .error (faultAt cs)
      else .ok (value (cs.takeWhile isDigit), cs.dropWhile isDigit)) := by
  rw [digits_veil, afterDigits_veil, faultAt_veil]
  split <;> rfl

theorem readWhole_of_ne {cs : List Char} (other : ∀ c r, cs ≠ '0' :: c :: r) :
    readWhole cs = if (cs.takeWhile isDigit).isEmpty then .error (faultAt cs) else .ok (cs.takeWhile isDigit, cs.dropWhile isDigit) := by
  unfold readWhole
  split
  · exact absurd rfl (other _ _)
  · rfl

theorem readWhole_veil (cs : List Char) : readWhole (cs.map veil) = veilRest (readWhole cs) := by
  by_cases leading : ∃ c r, cs = '0' :: c :: r
  · obtain ⟨c, r, rfl⟩ := leading
    show (if isDigit (veil c) then _ else _) = veilRest (if isDigit c then _ else _)
    rw [isDigit_veil]
    split <;> rfl
  · -- the veil does not make a leading zero either
    have other : ∀ c r, cs.map veil ≠ '0' :: c :: r := by
      rintro c r h
      obtain ⟨a, cs, rfl, ha, h⟩ := List.map_eq_cons_iff.1 h
      obtain ⟨b, cs, rfl, -, -⟩ := List.map_eq_cons_iff.1 h
      exact leading ⟨b, cs, by rw [(veil_eq_iff (by decide)).1 ha]⟩
    rw [readWhole_of_ne other, readWhole_of_ne fun c r h => leading ⟨c, r, h⟩]
    exact digitsOrFault_veil id cs

theorem readFraction_veil (cs : List Char) : readFraction (cs.map veil) = veilRest (readFraction cs) := by
  rcases cs with _ | ⟨a, cs⟩
  · rfl
  by_cases point : a = '.'
  · subst point
    simp only [List.map_cons, veil_of_lt (c := '.') (by decide), readFraction, digits_veil, afterDigits_veil, faultAt_veil]
    split <;> rfl
  · simp only [readFraction, List.map_cons, veil_ne point (by decide), point, List.cons.injEq, false_and, imp_false,
      not_false_eq_true, implies_true]
    rfl

theorem readExponent_veil (cs : List Char) : readExponent (cs.map veil) = veilRest (readExponent cs) := by
  rcases cs with _ | ⟨a, cs⟩
  · rfl
  simp (disch := decide) only [List.map_cons, readExponent, veil_eq_iff]
  split
  swap
  · rfl
  rcases cs with _ | ⟨a, cs⟩
  · rfl
  by_cases plus : a = '+'
  · subst plus
    exact digitsOrFault_veil (fun ds => some (false, ds)) cs
  by_cases minus : a = '-'
  · subst minus
    exact digitsOrFault_veil (fun ds => some (true, ds)) cs
  simp only [List.map_cons, veil_ne plus (by decide), veil_ne minus (by decide), plus, minus, List.cons.injEq, false_and, imp_false,
    not_false_eq_true, implies_true]
  exact digitsOrFault_veil (fun ds => some (false, ds)) (a :: cs)

theorem readNumeral_veil (cs : List Char) : readNumeral (cs.map veil) = veilRest (readNumeral cs) := by
  have unsigned (negative : Bool) (cs : List Char) :
      (readWhole (cs.map veil) >>= fun whole => readFraction whole.2 >>= fun fraction => readExponent fraction.2 >>= fun exponent =>
        pure (Numeral.mk negative whole.1 fraction.1 exponent.1, exponent.2)) =
      veilRest (readWhole cs >>= fun whole => readFraction whole.2 >>= fun fraction => readExponent fraction.2 >>= fun exponent =>
        pure (Numeral.mk negative whole.1 fraction.1 exponent.1, exponent.2)) := by
    rw [readWhole_veil]
    refine veilRest_bind fun whole cs => ?_
    rw [readFraction_veil]
    refine veilRest_bind fun fraction cs => ?_
    rw [readExponent_veil]
    exact veilRest_bind fun exponent cs => rfl
  rcases cs with _ | ⟨a, cs⟩
  · rfl
  by_cases minus : a = '-'
  · subst minus
    exact unsigned true cs
  · simp only [readNumeral, List.map_cons, veil_ne minus (by decide), minus, List.cons.injEq, false_and, imp_false,
      not_false_eq_true, implies_true]
    exact unsigned false (a :: cs)

/-! ### Trees -/

/-- What a reader of values finds in a text, after what it finds in the text veiled. -/
inductive SeesAlike : Doc × Option (List Char) → Doc × Option (List Char) → Prop where
  | stops {d e : Doc} (same : d.shape = e.shape) : SeesAlike (d, none) (e, none)
  | goesOn {d e : Doc} (same : d.shape = e.shape) (r : List Char) : SeesAlike (d, some (r.map veil)) (e, some r)

theorem SeesAlike.halt (f : Fault) : SeesAlike (halt f) (halt f) := .stops rfl

theorem word_veil {ws : List Char} (plain : ∀ w ∈ ws, w.toNat < 128) (d : Doc) (cs : List Char) :
    SeesAlike (match readWord ws (cs.map veil) with | .ok r => leaf d r | .error f => halt f)
      (match readWord ws cs with | .ok r => leaf d r | .error f => halt f) := by
  rw [readWord_veil plain]
  cases readWord ws cs with
  | ok r => exact .goesOn rfl r
  | error f => exact .halt f

theorem readScalar_veil (cs : List Char) : SeesAlike (readScalar (cs.map veil)) (readScalar cs) := by
  rcases cs with _ | ⟨c, cs⟩
  · exact .halt _
  by_cases null : c = 'n'
  · subst null
    exact word_veil (by simp) .null cs
  by_cases yes : c = 't'
  · subst yes
    exact word_veil (by simp) (.bool true) cs
  by_cases no : c = 'f'
  · subst no
    exact word_veil (by simp) (.bool false) cs
  by_cases quote : c = '"'
  · subst quote
    obtain ⟨f, plain, veiled⟩ | ⟨s, t, r, plain, veiled⟩ := readString_veil ('"' :: cs)
    · simp only [List.map_cons, veil_of_lt (c := '"') (by decide), readScalar, plain] at veiled ⊢
      rw [veiled]
      exact .halt f
    · simp only [List.map_cons, veil_of_lt (c := '"') (by decide), readScalar, plain] at veiled ⊢
      rw [veiled]
      exact .goesOn (show (Doc.str t).shape = (Doc.str s).shape from rfl) r
  have number := readNumeral_veil (c :: cs)
  simp only [List.map_cons, readScalar, veil_ne null (by decide), veil_ne yes (by decide), veil_ne no (by decide),
    veil_ne quote (by decide), imp_false, not_false_eq_true, isDigit_veil, veil_eq_iff (x := '-') (by decide)] at number ⊢
  split
  · rw [number]
    rcases readNumeral (c :: cs) with f | ⟨n, r⟩
    · exact .halt f
    · exact .goesOn rfl r
  · exact .halt _

section Trees
variable {fuel : ℕ}

/-- What a reader of items or fields finds in a text, after what it finds in the text veiled. -/
def SeesList {α : Type} (shape : List α → List α) (veiled plain : List α × Option Fault × Option (List Char)) : Prop :=
  shape veiled.1 = shape plain.1 ∧ veiled.2 = plain.2.map id (Option.map (List.map veil))

theorem SeesList.whole {α : Type} {shape : List α → List α} {veiled plain : List α × Option Fault × Option (List Char)}
    (h : SeesList shape veiled plain) (make : List α → Option Fault → Doc)
    (shaped : ∀ ds es stop, shape ds = shape es → (make ds stop).shape = (make es stop).shape) :
    SeesAlike (make veiled.1 veiled.2.1, veiled.2.2) (make plain.1 plain.2.1, plain.2.2) := by
  obtain ⟨ds, stop, rest⟩ := veiled
  obtain ⟨es, stop', rest'⟩ := plain
  obtain ⟨same, both⟩ := h
  cases both
  have whole : (make ds stop').shape = (make es stop').shape := shaped ds es stop' same
  cases rest' with
  | none => exact .stops whole
  | some r => exact .goesOn whole r

theorem SeesList.arr (level : ℕ) {veiled plain : List Doc × Option Fault × Option (List Char)}
    (h : SeesList itemsShape veiled plain) :
    SeesAlike (.arr level veiled.1 veiled.2.1, veiled.2.2) (.arr level plain.1 plain.2.1, plain.2.2) :=
  h.whole (.arr level) fun _ _ stop same => congrArg (Doc.arr level · stop) same

theorem SeesList.obj (level : ℕ) {veiled plain : List (Option String × Doc) × Option Fault × Option (List Char)}
    (h : SeesList fieldsShape veiled plain) :
    SeesAlike (.obj level veiled.1 veiled.2.1, veiled.2.2) (.obj level plain.1 plain.2.1, plain.2.2) :=
  h.whole (.obj level) fun _ _ stop same => congrArg (Doc.obj level · stop) same

theorem readItems_veil (values : ∀ level cs, SeesAlike (readValue fuel level (cs.map veil)) (readValue fuel level cs))
    (items : ∀ level cs, SeesList itemsShape (readItems fuel level (cs.map veil)) (readItems fuel level cs))
    (level : ℕ) (cs : List Char) :
    SeesList itemsShape (readItems (fuel + 1) level (cs.map veil)) (readItems (fuel + 1) level cs) := by
  have value := values level cs
  rw [readItems, readItems]
  generalize readValue fuel level (cs.map veil) = veiled, readValue fuel level cs = plain at value
  cases value with
  | stops same => exact ⟨congrArg (fun d => [d]) same, rfl⟩
  | goesOn same r =>
    have single := congrArg (fun d => [d]) same
    dsimp only
    rw [skipBlanks_veil]
    rcases skipBlanks r with _ | ⟨c, r⟩
    · exact ⟨single, rfl⟩
    by_cases close : c = ']'
    · subst close
      exact ⟨single, rfl⟩
    by_cases comma : c = ','
    swap
    · simp only [List.map_cons, veil_ne close (by decide), veil_ne comma (by decide), close, comma, List.cons.injEq, false_and,
        imp_false, not_false_eq_true, implies_true]
      exact ⟨single, rfl⟩
    subst comma
    simp only [List.map_cons, veil_of_lt (c := ',') (by decide), skipBlanks_veil]
    rcases skipBlanks r with _ | ⟨c, r⟩
    · have more := items level []
      exact ⟨congrArg₂ List.cons same more.1, more.2⟩
    by_cases close : c = ']'
    · subst close
      exact ⟨single, rfl⟩
    have more := items level (c :: r)
    simp only [List.map_cons, veil_ne close (by decide), close, List.cons.injEq, false_and, imp_false, not_false_eq_true,
      implies_true] at more ⊢
    exact ⟨congrArg₂ List.cons same more.1, more.2⟩

theorem readFields_veil (values : ∀ level cs, SeesAlike (readValue fuel level (cs.map veil)) (readValue fuel level cs))
    (fields : ∀ level cs, SeesList fieldsShape (readFields fuel level (cs.map veil)) (readFields fuel level cs))
    (level : ℕ) (cs : List Char) :
    SeesList fieldsShape (readFields (fuel + 1) level (cs.map veil)) (readFields (fuel + 1) level cs) := by
  rw [readFields, readFields, skipBlanks_veil]
  obtain ⟨f, plain, veiled⟩ | ⟨s, t, r, plain, veiled⟩ := readString_veil (skipBlanks cs)
  · rw [plain, veiled]
    exact ⟨rfl, rfl⟩
  rw [plain, veiled]
  dsimp only
  rw [skipBlanks_veil]
  rcases skipBlanks r with _ | ⟨c, r⟩
  · exact ⟨rfl, rfl⟩
  by_cases colon : c = ':'
  swap
  · simp only [List.map_cons, veil_ne colon (by decide), colon, List.cons.injEq, false_and, imp_false, not_false_eq_true, implies_true]
    exact ⟨rfl, rfl⟩
  subst colon
  have value := values level r
  simp only [List.map_cons, veil_of_lt (c := ':') (by decide)]
  generalize readValue fuel level (r.map veil) = veiled, readValue fuel level r = plain at value
  cases value with
  | stops same => exact ⟨congrArg (fun d => [(none, d)]) same, rfl⟩
  | goesOn same r =>
    have single := congrArg (fun d => [((none : Option String), d)]) same
    dsimp only
    rw [skipBlanks_veil]
    rcases skipBlanks r with _ | ⟨c, r⟩
    · exact ⟨single, rfl⟩
    by_cases close : c = '}'
    · subst close
      exact ⟨single, rfl⟩
    by_cases comma : c = ','
    swap
    · simp only [List.map_cons, veil_ne close (by decide), veil_ne comma (by decide), close, comma, List.cons.injEq, false_and,
        imp_false, not_false_eq_true, implies_true]
      exact ⟨single, rfl⟩
    subst comma
    simp only [List.map_cons, veil_of_lt (c := ',') (by decide), skipBlanks_veil]
    have more := fields level (skipBlanks r)
    exact ⟨congrArg₂ List.cons (congrArg (Prod.mk none) same) more.1, more.2⟩

theorem readValue_veil (items : ∀ level cs, SeesList itemsShape (readItems fuel level (cs.map veil)) (readItems fuel level cs))
    (fields : ∀ level cs, SeesList fieldsShape (readFields fuel level (cs.map veil)) (readFields fuel level cs))
    (level : ℕ) (cs : List Char) :
    SeesAlike (readValue (fuel + 1) level (cs.map veil)) (readValue (fuel + 1) level cs) := by
  rw [readValue, readValue, skipBlanks_veil]
  rcases skipBlanks cs with _ | ⟨c, r⟩
  · exact readScalar_veil []
  by_cases bracket : c = '['
  · subst bracket
    simp only [List.map_cons, veil_of_lt (c := '[') (by decide), skipBlanks_veil]
    rcases skipBlanks r with _ | ⟨c, r⟩
    · exact (items (level + 1) []).arr _
    by_cases close : c = ']'
    · subst close
      exact .goesOn rfl r
    have inside := items (level + 1) (c :: r)
    simp only [List.map_cons, veil_ne close (by decide), close, List.cons.injEq, false_and, imp_false, not_false_eq_true,
      implies_true] at inside ⊢
    exact inside.arr _
  by_cases brace : c = '{'
  · subst brace
    simp only [List.map_cons, veil_of_lt (c := '{') (by decide), skipBlanks_veil]
    rcases skipBlanks r with _ | ⟨c, r⟩
    · exact (fields (level + 1) []).obj _
    by_cases close : c = '}'
    · subst close
      exact .goesOn rfl r
    have inside := fields (level + 1) (c :: r)
    simp only [List.map_cons, veil_ne close (by decide), close, List.cons.injEq, false_and, imp_false, not_false_eq_true,
      implies_true] at inside ⊢
    exact inside.obj _
  simp only [List.map_cons, veil_ne bracket (by decide), veil_ne brace (by decide), bracket, brace, List.cons.injEq, false_and,
    imp_false, not_false_eq_true, implies_true]
  exact readScalar_veil (c :: r)

theorem read_veil (fuel : ℕ) : (∀ level cs, SeesAlike (readValue fuel level (cs.map veil)) (readValue fuel level cs)) ∧
    (∀ level cs, SeesList itemsShape (readItems fuel level (cs.map veil)) (readItems fuel level cs)) ∧
      ∀ level cs, SeesList fieldsShape (readFields fuel level (cs.map veil)) (readFields fuel level cs) := by
  induction fuel with
  | zero => exact ⟨fun _ _ => .halt _, fun _ _ => ⟨rfl, rfl⟩, fun _ _ => ⟨rfl, rfl⟩⟩
  | succ fuel ih =>
    obtain ⟨values, items, fields⟩ := ih
    exact ⟨readValue_veil items fields, readItems_veil values items, readFields_veil values fields⟩

end Trees

/-- The characters beyond ASCII in a text decide about nothing but the texts of its document. -/
theorem readText_veil (cs : List Char) : (readText (String.ofList (cs.map veil))).1.shape = (readText (String.ofList cs)).1.shape ∧
    (readText (String.ofList (cs.map veil))).2 = (readText (String.ofList cs)).2 := by
  have value := (read_veil (2 * cs.length + 1)).1 0 cs
  unfold readText
  simp only [String.toList_ofList, List.length_map]
  generalize readValue (2 * cs.length + 1) 0 (cs.map veil) = veiled, readValue (2 * cs.length + 1) 0 cs = plain at value
  cases value with
  | stops same => exact ⟨same, rfl⟩
  | goesOn same r =>
    refine ⟨same, ?_⟩
    dsimp only
    rw [skipBlanks_veil, List.isEmpty_map]

end StrategyHost.Json
