import Mathlib.Tactic.SplitIfs
import StrategyHost.Directory

/-! # Files that are there

A file that can be read is opened for appending as it is (`openForAppend_of_read`), and holds what is written to it
(`read_write`). -/

namespace StrategyHost.Directory
variable {d : Directory} {path content : String}

theorem read_eq_ok : d.read path = .ok content ↔ path ≠ "" ∧ d.files.lookup (.ofString path) = some content := by
  unfold Directory.read
  dsimp only
  split
  · rename_i text found
    split_ifs with named <;> simp [found, named]
  · rename_i found
    split_ifs <;> simp [found]

theorem lookup_write {files : List (FilePath × String)} {p : FilePath} (there : (files.lookup p).isSome) (text : String) :
    (files.map fun (q, old) => if q = p then (q, text) else (q, old)).lookup p = some text := by
  induction files with
  | nil => cases there
  | cons f files ih =>
    obtain ⟨q, old⟩ := f
    by_cases same : q = p
    · subst same
      simp
    · have other : (p == q) = false := beq_false_of_ne fun h => same h.symm
      rw [List.lookup_cons, other] at there
      simp [same, other, List.lookup_cons, ih there]

theorem read_write (there : d.read path = .ok content) (text : String) : (d.write path text).read path = .ok text := by
  obtain ⟨named, found⟩ := read_eq_ok.1 there
  have isFile : (d.files.lookup (.ofString path)).isSome := Option.isSome_of_eq_some found
  refine read_eq_ok.2 ⟨named, ?_⟩
  simp [Directory.write, Directory.isFile, isFile, lookup_write isFile]

theorem openForAppend_of_read (there : d.read path = .ok content) : d.openForAppend path = .ok (content, d) := by
  obtain ⟨named, found⟩ := read_eq_ok.1 there
  simp [Directory.openForAppend, named, found]

end StrategyHost.Directory
