import StrategyHost.Proofs.Audit.Lines
import StrategyHost.Proofs.Instant

/-! # Audit files read back

The lines of an audit file are its records, one to a line, and a record is read back but for its details, which are read as
any document is (`Sealed.decoder_docOf`). So a chain comes back whole if the details of its records do (`readLines_sealAll`).
Main statement: `readLines_lineOf_ofRecord`, a sealed record comes back from its line as it was sealed just when its details are
not nested too deeply and every double in them is read back as itself. -/

namespace StrategyHost.Audit
open Json (Decoder)

/-! ### Files of lines -/

theorem readLines_lineOf_append (s : Sealed) (more : String) : readLines (lineOf s ++ more) = do
    let t ← Json.decodeText Sealed.decoder s.toJson.compact
    let ts ← readLines more
    return t :: ts := by
  have text : (lineOf s ++ more).toList = s.toJson.compact.toList ++ '\n' :: more.toList := by
    simp [lineOf, String.toList_append]
  have shown : ¬ s.toJson.compact.toList.all Text.isBlank = true := by
    rw [Json.compact, String.toList_ofList]
    exact Bool.false_ne_true
  rw [readLines, text, splitLines_line (Json.allVisible_compact _), decodeLines, if_neg shown, String.ofList_toList]
  rfl

theorem readLines_join {records : List Sealed} :
    readLines (String.join (records.map lineOf)) = .ok records ↔
      ∀ s ∈ records, Json.decodeText Sealed.decoder s.toJson.compact = .ok s := by
  induction records with
  | nil => simp [readLines, splitLines, splitLines.go, decodeLines]
  | cons s records ih =>
    rw [List.map_cons, String.join_cons, readLines_lineOf_append]
    simp only [bind_eq_ok, List.forall_mem_cons, ← ih]
    constructor
    · rintro ⟨t, first, ts, others, done⟩
      cases done
      exact ⟨first, others⟩
    · rintro ⟨first, others⟩
      exact ⟨s, first, records, others, rfl⟩

/-! ### Records -/

theorem EventKind.find?_all (k : EventKind) : all.find? (·.1 == k.name) = some (k.name, k) := by cases k <;> rfl

/-- A record as a program holds one: the time is in the calendar, the version has 64 bits, and the details are an untyped
document. -/
structure Record.IsValid (r : Record) : Prop where
  timestamp : r.timestamp.IsValid
  version : r.version < 2 ^ 64
  detail : r.detail.IsValue
  sorted : r.detail.IsSorted

section Decoding
variable {level : ℕ}

/-- A record is read back but for its details, which are read as any document is. -/
theorem Record.decoder_docOf {r q : Record} (h : r.IsValid) (room : level + 1 ≤ Json.maxDepth) :
    decoder (Json.docOf level r.toJson) = .ok q ↔
      ∃ d, Decoder.json (Json.docOf (level + 1) r.detail) = .ok d ∧ { r with detail := d } = q := by
  rw [decoder, toJson, Json.record_docOf room rfl (by decide)]
  simp only [Json.Fields.read_seq, Json.Fields.read_map, Json.Fields.read_required]
  simp [Instant.decoder_docOf h.timestamp, Json.string_docOf, Json.nat_docOf h.version,
    Json.enum_docOf (EventKind.find?_all _)]

theorem Sealed.decoder_docOf {s t : Sealed} (h : s.record.IsValid) (room : level + 2 ≤ Json.maxDepth) :
    decoder (Json.docOf level s.toJson) = .ok t ↔
      ∃ d, Decoder.json (Json.docOf (level + 2) s.record.detail) = .ok d ∧
        { s with record := { s.record with detail := d } } = t := by
  have record {q : Record} := Record.decoder_docOf (q := q) h room
  rw [decoder, toJson, Json.record_docOf (by omega) rfl (by decide)]
  simp only [Json.Fields.read_seq, Json.Fields.read_map, Json.Fields.read_required]
  simp [Json.string_docOf, Json.nat_docOf s.sequence.toNat_lt, record]

end Decoding

theorem Record.IsValid.isValue {r : Record} (h : r.IsValid) : r.toJson.IsValue := by
  have version := h.version
  simp only [toJson, Json.IsValue, Json.FieldsAreValues, Json.ofNat, Instant.toJson, h.detail, true_and, and_true]
  omega

theorem Sealed.isValue {s : Sealed} (h : s.record.IsValid) : s.toJson.IsValue := by
  have numbered := s.sequence.toNat_lt
  simp only [toJson, Json.IsValue, Json.FieldsAreValues, Json.ofNat, h.isValue, and_true]
  omega

/-- What comes back of the details of a record: containers that are not nested too deeply, and doubles that are read back as
themselves. -/
structure Record.IsReread (r : Record) : Prop where
  depth : r.detail.depth ≤ 125
  doubles : ∀ x ∈ r.detail.doubles, Json.reread x = some x

theorem Sealed.decodeText_compact {s : Sealed} (h : s.record.IsValid) :
    Json.decodeText decoder s.toJson.compact = .ok s ↔ s.record.IsReread := by
  have detail := Json.json_docOf h.sorted (by decide : 2 ≤ Json.maxDepth)
  rw [Json.decodeText_compact _ (s.isValue h), decoder_docOf h (by decide)]
  constructor
  · rintro ⟨d, read, done⟩
    obtain rfl : d = s.record.detail := congrArg (·.record.detail) done
    obtain ⟨deep, kept⟩ := detail.1 read
    exact ⟨Nat.le_of_add_le_add_left deep, kept⟩
  · rintro ⟨deep, kept⟩
    exact ⟨_, detail.2 ⟨Nat.add_le_add_left deep 2, kept⟩, rfl⟩

theorem readLines_lineOf {s : Sealed} (h : s.record.IsValid) :
    readLines (lineOf s) = .ok [s] ↔ s.record.IsReread := by
  have line := @readLines_join [s]
  rwa [List.map_singleton, String.join_cons, String.join_nil, String.append_empty, List.forall_mem_singleton,
    Sealed.decodeText_compact h] at line

/-- A chain that was sealed and written line by line is read back whole if the details of its records come back. -/
theorem readLines_sealAll {n : UInt64} {p : String} {rs : List Record} (valid : ∀ r ∈ rs, r.IsValid) (kept : ∀ r ∈ rs, r.IsReread) :
    readLines (String.join ((sealAll n p rs).map lineOf)) = .ok (sealAll n p rs) := by
  refine readLines_join.2 ?_
  induction rs generalizing n p with
  | nil => nofun
  | cons r rs ih =>
    rw [sealAll, List.forall_mem_cons]
    obtain ⟨validFirst, valid⟩ := List.forall_mem_cons.1 valid
    obtain ⟨keptFirst, kept⟩ := List.forall_mem_cons.1 kept
    exact ⟨(Sealed.decodeText_compact validFirst).2 keptFirst, ih valid kept⟩

theorem Sealed.isIntact_ofRecord (sequence : UInt64) (prevHash : String) (r : Record) :
    (ofRecord sequence prevHash r).isIntact = true := beq_self_eq_true _

/-! ### The main statement -/

/-- A sealed record comes back from its line as it was sealed, with the hash of its contents, just when its details are not
nested too deeply and every double in them is read back as itself. -/
theorem readLines_lineOf_ofRecord {sequence : UInt64} (prevHash : String) {r : Record} (h : r.IsValid) :
    (∃ s, readLines (lineOf (Sealed.ofRecord sequence prevHash r)) = .ok [s] ∧ s = Sealed.ofRecord sequence prevHash r ∧
      s.isIntact = true) ↔ r.IsReread := by
  refine Iff.trans ?_ (readLines_lineOf (s := Sealed.ofRecord sequence prevHash r) h)
  constructor
  · rintro ⟨s, read, rfl, -⟩
    exact read
  · exact fun read => ⟨_, read, rfl, Sealed.isIntact_ofRecord ..⟩

/-- A record with an amount in its details. -/
def amountRecord (notional : Float) : Record :=
  ⟨⟨1704067200, 0⟩, "system", "momentum", 1, .loadAttempt, .obj [("notional", .float notional)]⟩

theorem isValid_amountRecord {notional : Float} (finite : Double.isFinite notional = true) :
    (amountRecord notional).IsValid where
  timestamp := (⟨.inl (by decide), by decide, by decide⟩ : Instant.IsValid ⟨1704067200, 0⟩)
  version := (by decide : 1 < 2 ^ 64)
  detail := ⟨finite, trivial⟩
  sorted := ⟨⟨trivial, trivial⟩, List.pairwise_singleton ..⟩

/-- Small amounts come back. -/
theorem readLines_lineOf_small_amount : (amountRecord 0.1).IsValid ∧
    ∃ s, readLines (lineOf (Sealed.ofRecord 7 genesisHash (amountRecord 0.1))) = .ok [s] ∧
      s = Sealed.ofRecord 7 genesisHash (amountRecord 0.1) ∧ s.isIntact = true := by
  have valid : (amountRecord 0.1).IsValid := isValid_amountRecord (by decide +kernel)
  refine ⟨valid, (readLines_lineOf_ofRecord genesisHash valid).2 ⟨by decide, ?_⟩⟩
  exact List.forall_mem_singleton.2 (by decide +kernel : Json.reread 0.1 = some 0.1)

/-- A large one need not: it is read as the double below it. -/
theorem not_readLines_lineOf_large_amount : ¬ ∀ (sequence : UInt64) (prevHash : String) (r : Record),
    r.IsValid → ∃ s, readLines (lineOf (Sealed.ofRecord sequence prevHash r)) = .ok [s] ∧
      s = Sealed.ofRecord sequence prevHash r ∧ s.isIntact = true := by
  intro always
  have valid : (amountRecord 5.0000000000000004e32).IsValid := isValid_amountRecord (by decide +kernel)
  obtain ⟨_, read, rfl, -⟩ := always 0 genesisHash _ valid
  have kept := ((readLines_lineOf valid).1 read).doubles 5.0000000000000004e32 (List.mem_singleton_self _)
  exact absurd kept (by decide +kernel)

end StrategyHost.Audit
