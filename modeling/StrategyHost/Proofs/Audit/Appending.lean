import Mathlib.Data.List.Infix
import StrategyHost.Audit.Lines

/-!
# Whole lines

Bytes are written in as many parts as the system likes, and any of the writes may fail, or the flush behind the last one. What
has been written by then is a part of the line from its beginning on (`exists_prefix_writeAll`), so that cutting back to the
old length leaves the output as it was (`appendLine_snd`). Main statement: `appendAll_whole`, behind each of a run of attempts
stand the whole lines of those that succeeded, and nothing else.
-/

namespace StrategyHost.Audit
variable {attempt : WriteAttempt} {line bytes out : List UInt8}

/-! ### One attempt -/

/-- However the writes go, the bytes are written from the first one on, and all of them if they succeed. -/
theorem exists_prefix_writeAll (answers : List WriteAnswer) (bytes out : List UInt8) :
    ∃ taken, taken <+: bytes ∧ (writeAll answers bytes out).2 = out ++ taken ∧
      ((writeAll answers bytes out).1 = true → taken = bytes) := by
  fun_induction writeAll answers bytes out with
  | case1 answers out => exact ⟨[], List.prefix_refl _, (List.append_nil _).symm, fun _ => rfl⟩
  | case2 bytes out => exact ⟨bytes, List.prefix_refl _, rfl, fun _ => rfl⟩
  | case3 answers bytes out => exact ⟨[], List.nil_prefix, (List.append_nil _).symm, nofun⟩
  | case4 n answers bytes out _ ih =>
    obtain ⟨taken, beginning, written, whole⟩ := ih
    refine ⟨bytes.take (n + 1) ++ taken, ?_, ?_, ?_⟩
    · have := (List.prefix_append_right_inj (bytes.take (n + 1))).2 beginning
      rwa [List.take_append_drop] at this
    · rw [written, List.append_assoc]
    · intro succeeded
      rw [whole succeeded, List.take_append_drop]
  | case5 answers bytes out _ ih => exact ih
  | case6 answers bytes out => exact ⟨[], List.nil_prefix, (List.append_nil _).symm, nofun⟩

/-- An attempt appends the whole line, or it fails and leaves a beginning of the line that cannot be cut off. -/
theorem appendLine_cases (attempt : WriteAttempt) (line out : List UInt8) : appendLine attempt line out = (true, out ++ line) ∨
    ∃ taken, taken <+: line ∧ (attempt.cuts = true → taken = []) ∧ appendLine attempt line out = (false, out ++ taken) := by
  obtain ⟨taken, beginning, written, whole⟩ := exists_prefix_writeAll attempt.writes line out
  rcases result : writeAll attempt.writes line out with ⟨ok, after⟩
  rw [result] at written whole
  obtain rfl : after = out ++ taken := written
  unfold appendLine
  simp only [result]
  split
  · split
    · rename_i both
      rw [whole (Bool.and_eq_true_iff.1 both).1]
      exact .inl rfl
    · right
      by_cases cut : attempt.cuts = true
      · exact ⟨[], List.nil_prefix, fun _ => rfl, by simp [cut]⟩
      · exact ⟨taken, beginning, fun h => absurd h cut, by simp [cut]⟩
  · exact .inr ⟨[], List.nil_prefix, fun _ => rfl, by simp⟩

theorem appendLine_succeeded (h : (appendLine attempt line out).1 = true) : (appendLine attempt line out).2 = out ++ line := by
  rcases appendLine_cases attempt line out with whole | ⟨taken, -, -, failed⟩
  · rw [whole]
  · rw [failed] at h
    cases h

/-- An attempt appends the whole line or nothing, if what it has written can be cut off. -/
theorem appendLine_snd (cut : attempt.cuts = true) (line out : List UInt8) :
    (appendLine attempt line out).2 = if (appendLine attempt line out).1 then out ++ line else out := by
  rcases appendLine_cases attempt line out with whole | ⟨taken, -, none, failed⟩
  · simp [whole]
  · simp [failed, none cut]

namespace WriteAttempt

/-- An attempt in which nothing fails, however many writes it takes. -/
structure IsUntroubled (attempt : WriteAttempt) : Prop where
  measures : attempt.measures = true
  writes : ∀ answer ∈ attempt.writes, answer ≠ .takes 0 ∧ answer ≠ .fails
  flushes : attempt.flushes = true

end WriteAttempt

theorem writeAll_fst {answers : List WriteAnswer} (going : ∀ answer ∈ answers, answer ≠ .takes 0 ∧ answer ≠ .fails)
    (bytes out : List UInt8) : (writeAll answers bytes out).1 = true := by
  fun_induction writeAll answers bytes out with
  | case1 => rfl
  | case2 => rfl
  | case3 => exact absurd rfl (going _ (List.mem_cons_self ..)).1
  | case4 n answers bytes out _ ih => exact ih (List.forall_mem_cons.1 going).2
  | case5 answers bytes out _ ih => exact ih (List.forall_mem_cons.1 going).2
  | case6 => exact absurd rfl (going _ (List.mem_cons_self ..)).2

theorem WriteAttempt.IsUntroubled.appendLine (h : attempt.IsUntroubled) (line out : List UInt8) :
    appendLine attempt line out = (true, out ++ line) := by
  have whole := writeAll_fst h.writes line out
  have succeeds : (Audit.appendLine attempt line out).1 = true := by simp [Audit.appendLine, h.measures, h.flushes, whole]
  exact Prod.ext succeeds (appendLine_succeeded succeeds)

/-! ### Attempts one after another -/

/-- Attempts one after another, each with its line: whether each succeeds, and the output behind it. -/
def appendAll : List (WriteAttempt × List UInt8) → List UInt8 → List (Bool × List UInt8)
  | [], _ => []
  | (attempt, line) :: rest, out =>
    let result := appendLine attempt line out
    result :: appendAll rest result.2

def wholeLines (attempts : List (WriteAttempt × List UInt8)) (results : List (Bool × List UInt8)) : List (List UInt8) :=
  ((attempts.zip results).filter (·.2.1)).map (·.1.2)

def appendUntil (line : List UInt8) : List WriteAttempt → List UInt8 → Bool × List UInt8
  | [], out => (false, out)
  | attempt :: rest, out =>
    match appendLine attempt line out with
    | (true, out) => (true, out)
    | (false, out) => appendUntil line rest out

/-- Whether bytes are empty or end with the end of a line. -/
def EndsLine (bytes : List UInt8) : Prop := bytes = [] ∨ bytes.getLast? = some 10

theorem EndsLine.append (h : EndsLine bytes) (h' : EndsLine out) : EndsLine (bytes ++ out) := by
  rcases h' with rfl | ends
  · rwa [List.append_nil]
  · right
    rw [List.getLast?_append, ends]
    rfl

theorem EndsLine.flatten {lines : List (List UInt8)} (h : ∀ line ∈ lines, EndsLine line) : EndsLine lines.flatten := by
  induction lines with
  | nil => exact .inl rfl
  | cons line lines ih =>
    obtain ⟨first, rest⟩ := List.forall_mem_cons.1 h
    exact first.append (ih rest)

theorem mem_of_mem_wholeLines {attempts : List (WriteAttempt × List UInt8)} {results : List (Bool × List UInt8)}
    (h : line ∈ wholeLines attempts results) : ∃ a ∈ attempts, a.2 = line := by
  obtain ⟨⟨a, result⟩, kept, rfl⟩ := List.mem_map.1 h
  exact ⟨a, (List.of_mem_zip (List.mem_filter.1 kept).1).1, rfl⟩

section
variable {attempts : List (WriteAttempt × List UInt8)} {result : Bool × List UInt8}

theorem length_appendAll (attempts : List (WriteAttempt × List UInt8)) (out : List UInt8) :
    (appendAll attempts out).length = attempts.length := by
  induction attempts generalizing out with
  | nil => rfl
  | cons a attempts ih => exact congrArg (· + 1) (ih _)

theorem snd_of_appendAll (cut : ∀ a ∈ attempts, a.1.cuts = true) {n : ℕ} (h : (appendAll attempts out)[n]? = some result) :
    result.2 = out ++ (wholeLines (attempts.take (n + 1)) (appendAll attempts out)).flatten := by
  induction attempts generalizing out n with
  | nil => simp [appendAll] at h
  | cons a attempts ih =>
    obtain ⟨attempt, line⟩ := a
    obtain ⟨cutFirst, cut⟩ := List.forall_mem_cons.1 cut
    have first := appendLine_snd cutFirst line out
    have lines (n : ℕ) : out ++ (wholeLines (((attempt, line) :: attempts).take (n + 1))
        (appendAll ((attempt, line) :: attempts) out)).flatten =
          (appendLine attempt line out).2 ++ (wholeLines (attempts.take n) (appendAll attempts (appendLine attempt line out).2)).flatten := by
      rw [first]
      cases ok : (appendLine attempt line out).1 <;> simp [wholeLines, appendAll, ok, first]
    rw [lines]
    cases n with
    | zero =>
      obtain rfl : appendLine attempt line out = result := by simpa [appendAll] using h
      simp [wholeLines]
    | succ n => exact ih cut (by simpa [appendAll] using h)

end

theorem appendUntil_snd {tries : List WriteAttempt} (cut : ∀ a ∈ tries, a.cuts = true) (line out : List UInt8) :
    (appendUntil line tries out).2 = if (appendUntil line tries out).1 then out ++ line else out := by
  induction tries generalizing out with
  | nil => rfl
  | cons attempt tries ih =>
    obtain ⟨cutFirst, cut⟩ := List.forall_mem_cons.1 cut
    have first := appendLine_snd cutFirst line out
    rw [appendUntil]
    rcases result : appendLine attempt line out with ⟨_ | _, after⟩ <;> rw [result] at first
    · obtain rfl : after = out := first
      exact ih cut _
    · exact first

theorem appendUntil_fst {tries : List WriteAttempt} (h : ∃ a ∈ tries, a.IsUntroubled) (line out : List UInt8) :
    (appendUntil line tries out).1 = true := by
  induction tries generalizing out with
  | nil => simp at h
  | cons attempt tries ih =>
    rw [appendUntil]
    rcases result : appendLine attempt line out with ⟨_ | _, after⟩
    · refine ih ?_ after
      obtain ⟨a, ha, untroubled⟩ := h
      rcases List.mem_cons.1 ha with rfl | ha
      · rw [untroubled.appendLine line out] at result
        cases result
      · exact ⟨a, ha, untroubled⟩
    · rfl

/-- Behind each of a run of attempts stand the whole lines of those that succeeded, in order, so no line is torn. A line that is
tried until it succeeds stands there once. -/
theorem appendAll_whole {attempts : List (WriteAttempt × List UInt8)} (cut : ∀ a ∈ attempts, a.1.cuts = true) (out : List UInt8) :
    (appendAll attempts out).length = attempts.length ∧
    (∀ (n : ℕ) (result : Bool × List UInt8), (appendAll attempts out)[n]? = some result →
      result.2 = out ++ (wholeLines (attempts.take (n + 1)) (appendAll attempts out)).flatten ∧
        (EndsLine out → (∀ a ∈ attempts, EndsLine a.2) → EndsLine result.2)) ∧
    ∀ (line : List UInt8) (tries : List WriteAttempt), (∀ a ∈ tries, a.cuts = true) →
      (appendUntil line tries out).2 = (if (appendUntil line tries out).1 then out ++ line else out) ∧
        ((∃ a ∈ tries, a.IsUntroubled) → (appendUntil line tries out).1 = true) := by
  refine ⟨length_appendAll attempts out, ?_, ?_⟩
  · intro n result reached
    have lines := snd_of_appendAll cut reached
    refine ⟨lines, fun start ends => ?_⟩
    rw [lines]
    refine start.append (.flatten fun line kept => ?_)
    obtain ⟨a, ha, rfl⟩ := mem_of_mem_wholeLines kept
    exact ends a (List.mem_of_mem_take ha)
  · exact fun line tries cut => ⟨appendUntil_snd cut line out, fun h => appendUntil_fst h line out⟩

/-- A write that fails half-way, a flush that fails and an attempt that goes well. -/
def troubledAttempts : List (WriteAttempt × List UInt8) :=
  [(⟨true, [.takes 2, .interrupted, .fails], true, true⟩, [123, 125, 10]), (⟨true, [], false, true⟩, [91, 93, 10]),
    (⟨true, [.takes 2], true, true⟩, [49, 48, 10])]

/-- Behind them stands the line of the last. -/
theorem appendAll_whole_troubled : (∀ a ∈ troubledAttempts, a.1.cuts = true) ∧ ∀ result,
    (appendAll troubledAttempts [48, 10])[2]? = some result → result.2 = [48, 10, 49, 48, 10] ∧ EndsLine result.2 := by
  have cut : ∀ a ∈ troubledAttempts, a.1.cuts = true := by decide
  refine ⟨cut, fun result reached => ?_⟩
  obtain ⟨lines, ends⟩ := (appendAll_whole cut [48, 10]).2.1 2 result reached
  have last : wholeLines (troubledAttempts.take 3) (appendAll troubledAttempts [48, 10]) = [[49, 48, 10]] := by decide
  rw [last] at lines
  exact ⟨lines, ends (.inr rfl) (by simp [troubledAttempts, EndsLine])⟩

end StrategyHost.Audit
