import StrategyHost.Proofs.Audit.Appending
import StrategyHost.Proofs.Audit.Persistence
import StrategyHost.Proofs.Digest.Collision
import StrategyHost.Proofs.Directory
import StrategyHost.Proofs.Json.Whole

/-! # A file that grows

A line is appended to whatever a file holds, so it goes on with a last line that nothing ends. Blanks there do no harm; behind
anything else the new record makes one line with it, which is no document (`readLines_append`). Main statement:
`openForAppend_readLines`, what a readable file is read as once a record was appended to it. -/

namespace StrategyHost.Audit
open Json (Decoder Fields)

/-! ### Records are read whole -/

theorem Record.isWhole_decoder : Record.decoder.IsWhole := by
  refine Decoder.IsWhole.record ?_ (by decide)
  have timestamp := Fields.IsWhole.required (Decoder.IsWhole.string.bind _ : Instant.decoder.IsWhole) "timestamp"
  have string := Fields.IsWhole.required Decoder.IsWhole.string
  exact (((((timestamp.map Record.mk).seq (string _)).seq (string _)).seq (.required (.nat 64) _)).seq
    (.required (.enum _) _)).seq (.required .json _)

theorem Sealed.exists_fields : ∃ fs : Fields Sealed, decoder = .record fs ∧ fs.IsWhole ∧ fs.names.Nodup := by
  refine ⟨_, rfl, ?_, by decide⟩
  have sequence := Fields.IsWhole.required (.nat 64) "sequence"
  have string := Fields.IsWhole.required Decoder.IsWhole.string
  exact (((sequence.map fun n => Sealed.mk (.ofNat n)).seq (.required Record.isWhole_decoder _)).seq (string _)).seq (string _)

/-! ### Blanks -/

section
variable {c : Char}

theorem isBlank_of_json (h : Json.isBlank c = true) : Text.isBlank c = true := by
  simp only [Json.isBlank, Bool.or_eq_true, decide_eq_true_eq] at h
  rcases h with ((rfl | rfl) | rfl) | rfl <;> decide

theorem strange_of_isBlank (h : Text.isBlank c = true) : Json.Kind.ofChar? c = none := by
  have other (d : Char) (shown : Text.isBlank d = false) : c ≠ d := by
    rintro rfl
    rw [h] at shown
    cases shown
  have digit : ¬ Json.isDigit c = true := by
    intro digit
    simp only [Json.isDigit, Bool.and_eq_true, decide_eq_true_eq] at digit
    have low : 48 ≤ c.toNat := UInt32.le_iff_toNat_le.1 digit.1
    have high : c.toNat ≤ 57 := UInt32.le_iff_toNat_le.1 digit.2
    simp only [Text.isBlank, Bool.or_eq_true, Bool.and_eq_true, decide_eq_true_eq] at h
    omega
  simp [Json.Kind.ofChar?, other 'n' rfl, other 't' rfl, other 'f' rfl, other '"' rfl, other '[' rfl, other '{' rfl, other '-' rfl, digit]

end

/-! ### The line that goes on -/

theorem toList_compact (s : Sealed) : ∃ rest, s.toJson.compact.toList = '{' :: rest := by
  rw [Json.compact, String.toList_ofList]
  exact ⟨_, rfl⟩

variable {content : String} {records : List Sealed} {s : Sealed}

theorem splitLines_append_lineOf (content : String) (s : Sealed) :
    splitLines (content ++ lineOf s).toList = endedLines content ++ [openEnd content ++ s.toJson.compact.toList] := by
  have visible := Json.allVisible_compact s.toJson
  obtain ⟨rest, text⟩ := toList_compact s
  have running : '\n' ∉ openEnd content ++ s.toJson.compact.toList := by
    intro feed
    rcases List.mem_append.1 feed with before | inside
    · simpa using List.mem_rtakeWhile_imp before
    · exact absurd (visible _ inside) (by decide)
  have noReturn : (openEnd content ++ s.toJson.compact.toList).getLast? ≠ some '\r' := by
    rw [List.getLast?_append_of_ne_nil _ (by rw [text]; exact List.cons_ne_nil _ _)]
    exact fun last => absurd (visible _ (List.mem_of_getLast? last)) (by decide)
  have line : (lineOf s).toList = s.toJson.compact.toList ++ ['\n'] := String.toList_append
  rw [String.toList_append, line, splitLines_append, ← List.append_assoc, splitLines_running running noReturn]
  rfl

theorem decodeLines_singleton {line : List Char} (shown : ¬ line.all Text.isBlank = true) : decodeLines [line] =
    (Json.decodeText Sealed.decoder (String.ofList line)).map ([·]) := by
  rw [decodeLines, if_neg shown]
  cases Json.decodeText Sealed.decoder (String.ofList line) <;> rfl

theorem decodeLines_blank {line : List Char} (blank : line.all Json.isBlank = true) :
    decodeLines (if line = [] then [] else [line]) = .ok [] := by
  have unseen : line.all Text.isBlank = true := by
    rw [List.all_eq_true] at blank ⊢
    exact fun c hc => isBlank_of_json (blank c hc)
  split
  · rfl
  · rw [decodeLines, if_pos unseen]
    rfl

/-- The line that a record makes with an open end of a file is read only if the end is blank. -/
theorem decodeText_openEnd {line : List Char} {behind : List Sealed} (running : '\n' ∉ line)
    (readable : decodeLines (splitLines line) = .ok behind)
    (reread : Json.decodeText Sealed.decoder s.toJson.compact = .ok s) :
    Json.decodeText Sealed.decoder (String.ofList (line ++ s.toJson.compact.toList)) =
        (if line.all Json.isBlank then .ok s else .error .malformed) ∧ (line.all Json.isBlank = true → behind = []) := by
  obtain ⟨fs, record, whole, distinct⟩ := Sealed.exists_fields
  obtain ⟨rest, text⟩ := toList_compact s
  rw [splitLines_open running] at readable
  rw [← String.ofList_toList (s := s.toJson.compact), record] at reread
  rw [record]
  by_cases blank : line.all Json.isBlank = true
  · rw [if_pos blank]
    refine ⟨Json.decodeText_blanks whole distinct (List.all_eq_true.1 blank) reread, fun _ => ?_⟩
    rw [decodeLines_blank blank] at readable
    cases readable
    rfl
  · rw [if_neg blank]
    refine ⟨?_, fun h => absurd h blank⟩
    have goesOn : Json.skipBlanks line ≠ [] := fun none => blank (List.all_eq_true.2 (List.dropWhile_eq_nil_iff.1 none))
    by_cases unseen : line.all Text.isBlank = true
    · -- the reader of lines skips such a line, but its blanks are none to the reader of documents
      rcases first : Json.skipBlanks line with _ | ⟨c, r⟩
      · exact absurd first goesOn
      have inside : c ∈ line := (List.dropWhile_suffix _).subset (first ▸ List.mem_cons_self ..)
      have strange := strange_of_isBlank (List.all_eq_true.1 unseen c inside)
      exact Json.decodeText_strange (Json.skipBlanks_append_cons _ first) strange
    · have some : line ≠ [] := by
        rintro rfl
        exact goesOn rfl
      rw [if_neg some, decodeLines_singleton unseen, record] at readable
      obtain ⟨t, read, -⟩ := map_eq_ok.1 readable
      rw [Json.decodeText_append whole distinct _ read, text]
      rfl

/-- A readable file stays readable when a record is appended to it just when its open end is blank. -/
theorem readLines_append (readable : readLines content = .ok records)
    (reread : Json.decodeText Sealed.decoder s.toJson.compact = .ok s) :
    readLines (content ++ lineOf s) = if (openEnd content).all Json.isBlank then .ok (records ++ [s]) else .error .malformed := by
  obtain ⟨rest, text⟩ := toList_compact s
  have lines : splitLines content.toList = endedLines content ++ splitLines (openEnd content) := by
    have := splitLines_append content []
    rwa [List.append_nil, List.append_nil] at this
  have running : '\n' ∉ openEnd content := fun feed => by simpa using List.mem_rtakeWhile_imp feed
  have shown : ¬ (openEnd content ++ s.toJson.compact.toList).all Text.isBlank = true := by
    rw [List.all_append, text]
    simp [show Text.isBlank '{' = false from rfl]
  rw [readLines, lines, decodeLines_append] at readable
  obtain ⟨before, ended, readable⟩ := bind_eq_ok.1 readable
  obtain ⟨behind, opened, done⟩ := bind_eq_ok.1 readable
  obtain ⟨line, nothing⟩ := decodeText_openEnd running opened reread
  rw [readLines, splitLines_append_lineOf, decodeLines_append, ended, decodeLines_singleton shown, line]
  cases done
  by_cases blank : (openEnd content).all Json.isBlank = true
  · rw [if_pos blank, if_pos blank, nothing blank, List.append_nil]
    rfl
  · rw [if_neg blank, if_neg blank]
    rfl

theorem openEnd_lineOf (content : String) (s : Sealed) : openEnd (content ++ lineOf s) = [] := by
  have line : (content ++ lineOf s).toList = (content.toList ++ s.toJson.compact.toList) ++ ['\n'] := by
    simp [lineOf, String.toList_append]
  rw [openEnd, line, List.rtakeWhile_concat_neg _ _ _ (by simp)]

theorem readLines_append_join (readable : readLines content = .ok records) (ends : openEnd content = []) {more : List Sealed}
    (reread : ∀ s ∈ more, Json.decodeText Sealed.decoder s.toJson.compact = .ok s) :
    readLines (content ++ String.join (more.map lineOf)) = .ok (records ++ more) := by
  induction more generalizing content records with
  | nil => simpa using readable
  | cons s more ih =>
    obtain ⟨first, rest⟩ := List.forall_mem_cons.1 reread
    have next : readLines (content ++ lineOf s) = .ok (records ++ [s]) := by
      rw [readLines_append readable first, ends]
      rfl
    rw [List.map_cons, String.join_cons, ← String.append_assoc, ih next (openEnd_lineOf content s) rest, List.append_assoc,
      List.singleton_append]

/-! ### Files -/

variable {d : Directory} {path : String}

/-- A readable file is opened as it is. Once a record was appended to it, it is read as its records and the new one if it ended a
line or left nothing but blanks open, and else it cannot be read any more. Either way it ends a line now. -/
theorem openForAppend_readLines (there : d.read path = .ok content) (readable : readLines content = .ok records)
    (reread : Json.decodeText Sealed.decoder s.toJson.compact = .ok s) :
    d.openForAppend path = .ok (content, d) ∧
    ∀ (attempt : WriteAttempt) (bytes : List UInt8),
      appendLine attempt (utf8Bytes (lineOf s)) (utf8Bytes content) = (true, bytes) →
      ∃ after, utf8Bytes after = bytes ∧ (d.write path after).read path = .ok after ∧ openEnd after = [] ∧
        readLines after = if (openEnd content).all Json.isBlank then .ok (records ++ [s]) else .error .malformed := by
  refine ⟨Directory.openForAppend_of_read there, fun attempt bytes succeeded => ?_⟩
  have appended := appendLine_succeeded (congrArg Prod.fst succeeded)
  rw [succeeded] at appended
  refine ⟨content ++ lineOf s, ?_, Directory.read_write there _, openEnd_lineOf content s, readLines_append readable reread⟩
  rw [utf8Bytes_append]
  exact appended.symm

/-! ### Ends that are blank and ends that are not -/

/-- The first two records of a chain. -/
def firstAmount : Sealed := .ofRecord 0 genesisHash (amountRecord 0.1)

def secondAmount : Sealed := .ofRecord 1 firstAmount.hash (amountRecord 0.1)

theorem decodeText_amount (n : UInt64) (p : String) :
    Json.decodeText Sealed.decoder (Sealed.ofRecord n p (amountRecord 0.1)).toJson.compact = .ok (.ofRecord n p (amountRecord 0.1)) := by
  have valid : (amountRecord 0.1).IsValid := isValid_amountRecord (by decide +kernel)
  have kept : (amountRecord 0.1).IsReread :=
    ⟨by decide, List.forall_mem_singleton.2 (by decide +kernel : Json.reread 0.1 = some 0.1)⟩
  exact (Sealed.decodeText_compact valid).2 kept

/-- Blanks behind the last line do no harm. -/
theorem openForAppend_readLines_blanks :
    (Directory.ofList [("audit", lineOf firstAmount ++ " \t")]).read "audit" = .ok (lineOf firstAmount ++ " \t") ∧
    readLines (lineOf firstAmount ++ " \t") = .ok [firstAmount] ∧
    Json.decodeText Sealed.decoder secondAmount.toJson.compact = .ok secondAmount ∧
    ∃ after, utf8Bytes after = utf8Bytes (lineOf firstAmount ++ " \t") ++ utf8Bytes (lineOf secondAmount) ∧
      readLines after = .ok [firstAmount, secondAmount] := by
  have there : (Directory.ofList [("audit", lineOf firstAmount ++ " \t")]).read "audit" = .ok (lineOf firstAmount ++ " \t") :=
    Directory.read_eq_ok.2 ⟨by decide, by simp [Directory.ofList]⟩
  have readable : readLines (lineOf firstAmount ++ " \t") = .ok [firstAmount] := by
    rw [readLines_lineOf_append, firstAmount, decodeText_amount]
    rfl
  have reread : Json.decodeText Sealed.decoder secondAmount.toJson.compact = .ok secondAmount := decodeText_amount _ _
  have untroubled : WriteAttempt.IsUntroubled ⟨true, [.takes 5, .interrupted], true, false⟩ := ⟨rfl, by decide, rfl⟩
  obtain ⟨after, bytes, -, -, lines⟩ :=
    (openForAppend_readLines there readable reread).2 _ _ (untroubled.appendLine _ _)
  have blanks : openEnd (lineOf firstAmount ++ " \t") = [' ', '\t'] := by simp [openEnd, lineOf, List.rtakeWhile]
  rw [blanks] at lines
  exact ⟨there, readable, reread, after, bytes, lines⟩

/-- A readable file need not stay readable: a record without the end of its line is read, and the next one cannot be read behind
it. -/
theorem not_readLines_appended : ¬ ∀ (d : Directory) (path content : String) (records : List Sealed) (s : Sealed)
    (attempt : WriteAttempt) (bytes : List UInt8), d.read path = .ok content → readLines content = .ok records →
      Json.decodeText Sealed.decoder s.toJson.compact = .ok s →
      appendLine attempt (utf8Bytes (lineOf s)) (utf8Bytes content) = (true, bytes) →
      ∃ after, utf8Bytes after = bytes ∧ readLines after = .ok (records ++ [s]) := by
  intro always
  have visible := Json.allVisible_compact firstAmount.toJson
  have running : '\n' ∉ firstAmount.toJson.compact.toList := fun feed => absurd (visible _ feed) (by decide)
  have opened : openEnd firstAmount.toJson.compact = firstAmount.toJson.compact.toList := by
    refine List.rtakeWhile_eq_self_iff.2 fun c hc => decide_eq_true ?_
    rintro rfl
    exact running hc
  obtain ⟨rest, text⟩ := toList_compact firstAmount
  have readable : readLines firstAmount.toJson.compact = .ok [firstAmount] := by
    have shown : ¬ firstAmount.toJson.compact.toList.all Text.isBlank = true := by
      rw [text]
      exact Bool.false_ne_true
    rw [readLines, splitLines_open running, if_neg (text ▸ List.cons_ne_nil _ _), decodeLines_singleton shown, String.ofList_toList,
      firstAmount, decodeText_amount]
    rfl
  have reread : Json.decodeText Sealed.decoder secondAmount.toJson.compact = .ok secondAmount := decodeText_amount _ _
  have untroubled : WriteAttempt.IsUntroubled ⟨true, [], true, true⟩ := ⟨rfl, by decide, rfl⟩
  have there : (Directory.ofList [("audit", firstAmount.toJson.compact)]).read "audit" = .ok firstAmount.toJson.compact :=
    Directory.read_eq_ok.2 ⟨by decide, by simp [Directory.ofList]⟩
  obtain ⟨after, bytes, lines⟩ := always _ _ _ _ _ _ _ there readable reread (untroubled.appendLine _ _)
  rw [← utf8Bytes_append] at bytes
  rw [utf8Bytes_injective bytes, readLines_append readable reread, opened, text] at lines
  cases lines

end StrategyHost.Audit
