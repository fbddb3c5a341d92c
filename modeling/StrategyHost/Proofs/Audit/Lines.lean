import Mathlib.Data.List.DropRight
import StrategyHost.Audit.Lines
import StrategyHost.Proofs.Json.Line
import StrategyHost.Proofs.Result

/-! # Lines of a file

A line feed ends the line that it stands in, whatever stands behind it, so that a file is split apart behind the last of them
(`splitLines_append`): what is appended goes on with the line that was left open. -/

namespace StrategyHost.Audit
open Json (AllVisible)

variable {line : List Char}

/-! ### One line -/

theorem go_running (running : '\n' ∉ line) (acc rest : List Char) :
    splitLines.go acc (line ++ rest) = splitLines.go (line.reverse ++ acc) rest := by
  induction line generalizing acc with
  | nil => rfl
  | cons c line ih =>
    obtain ⟨here, running⟩ := not_or.1 fun h => running (List.mem_cons.2 h)
    have next : splitLines.go acc (c :: (line ++ rest)) = splitLines.go (c :: acc) (line ++ rest) := by
      rw [splitLines.go]
      exact fun same => here same.symm
    rw [List.cons_append, next, ih running, List.reverse_cons, List.append_assoc, List.singleton_append]

theorem splitLines_running (running : '\n' ∉ line) (noReturn : line.getLast? ≠ some '\r') (rest : List Char) :
    splitLines (line ++ '\n' :: rest) = line :: splitLines rest := by
  rw [splitLines, go_running running, List.append_nil, splitLines.go, List.reverse_reverse]
  · rfl
  · intro before reversed
    rw [← List.head?_reverse, reversed] at noReturn
    exact noReturn rfl

theorem splitLines_line (h : AllVisible line) (rest : List Char) : splitLines (line ++ '\n' :: rest) = line :: splitLines rest := by
  refine splitLines_running (fun newline => absurd (h _ newline) (by decide)) (fun last => ?_) rest
  exact absurd (h _ (List.mem_of_getLast? last)) (by decide)

theorem splitLines_open (running : '\n' ∉ line) : splitLines line = if line = [] then [] else [line] := by
  have whole := go_running running [] []
  rw [List.append_nil, List.append_nil] at whole
  rw [splitLines, whole, splitLines.go, List.reverse_reverse]
  simp

/-! ### What is appended -/

theorem go_append (acc before rest : List Char) :
    splitLines.go acc (before ++ '\n' :: rest) = splitLines.go acc (before ++ ['\n']) ++ splitLines rest := by
  induction before generalizing acc with
  | nil => rfl
  | cons c before ih =>
    rw [List.cons_append, List.cons_append]
    by_cases feed : c = '\n'
    · subst feed
      exact congrArg (List.cons _) (ih [])
    · have next (cs : List Char) : splitLines.go acc (c :: cs) = splitLines.go (c :: acc) cs := by
        rw [splitLines.go]
        exact feed
      rw [next, next, ih]

/-- The characters behind the last line feed of a file. -/
def openEnd (content : String) : List Char := content.toList.rtakeWhile (· ≠ '\n')

/-- The lines of a file that are ended. -/
def endedLines (content : String) : List (List Char) := splitLines (content.toList.rdropWhile (· ≠ '\n'))

theorem splitLines_append (content : String) (more : List Char) :
    splitLines (content.toList ++ more) = endedLines content ++ splitLines (openEnd content ++ more) := by
  have parts := List.rdropWhile_append_rtakeWhile (p := fun c => decide (c ≠ '\n')) (l := content.toList)
  conv_lhs => rw [← parts, List.append_assoc]
  rcases List.eq_nil_or_concat' (content.toList.rdropWhile (· ≠ '\n')) with none | ⟨ended, c, ends⟩
  · rw [endedLines, none]
    rfl
  · have some := ends ▸ List.concat_ne_nil c ended
    have last := List.rdropWhile_last_not (fun c => decide (c ≠ '\n')) content.toList some
    rw [List.getLast_congr some (List.concat_ne_nil c ended) ends, List.getLast_concat] at last
    obtain rfl : c = '\n' := by simpa using last
    rw [endedLines, ends, List.append_assoc, List.singleton_append]
    exact go_append [] ended _

theorem decodeLines_append (lines more : List (List Char)) : decodeLines (lines ++ more) = do
    let before ← decodeLines lines
    let behind ← decodeLines more
    return before ++ behind := by
  induction lines with
  | nil =>
    show decodeLines more = (do let behind ← decodeLines more; return [] ++ behind)
    cases decodeLines more <;> rfl
  | cons line lines ih =>
    rw [List.cons_append, decodeLines, decodeLines, ih]
    split
    · rfl
    · cases Json.decodeText Sealed.decoder (String.ofList line) with
      | error f => rfl
      | ok s =>
        cases decodeLines lines with
        | error f => rfl
        | ok before => cases decodeLines more <;> rfl

end StrategyHost.Audit
