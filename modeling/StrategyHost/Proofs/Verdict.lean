import StrategyHost.Proofs.Json.Extent
import StrategyHost.Verdict

/-! # Verdicts and their findings

The outcome of a verdict follows from its findings, and with it the risk level unless nothing was found. A verdict says so itself
(`Verdict.isConsistent`), so no document can hold another (`Verdict.outcome_eq`); it comes back from its own (`Verdict.decoder_docOf`).
Main statement: `Verdict.not_downgraded`, for verdicts from every source. -/

namespace StrategyHost
open Json (Decoder docOf)

/-! ### Outcomes of findings -/

def Blocks (fs : List Finding) : Prop := ∃ f ∈ fs, f.severity.isBlocking = true

section Blocks
variable {fs gs : List Finding} {f : Finding}

theorem not_blocks_nil : ¬ Blocks [] := by rintro ⟨f, hf, -⟩; cases hf

theorem blocks_append : Blocks (fs ++ gs) ↔ Blocks fs ∨ Blocks gs := by
  simp only [Blocks, List.mem_append, or_and_right, exists_or]

theorem blocks_singleton : Blocks [f] ↔ f.severity.isBlocking = true := by
  simp only [Blocks, List.mem_singleton, exists_eq_left]

theorem blocks_flatMap {α : Type} {xs : List α} {g : α → List Finding} : Blocks (xs.flatMap g) ↔ ∃ x ∈ xs, Blocks (g x) := by
  constructor
  · rintro ⟨f, hf, high⟩
    obtain ⟨x, hx, hfx⟩ := List.mem_flatMap.1 hf
    exact ⟨x, hx, f, hfx, high⟩
  · rintro ⟨x, hx, f, hfx, high⟩
    exact ⟨f, List.mem_flatMap.2 ⟨x, hx, hfx⟩, high⟩

end Blocks

theorem Finding.worst?_eq_none {fs : List Finding} : worst? fs = none ↔ fs = [] := by
  cases fs with
  | nil => exact ⟨fun _ => rfl, fun _ => rfl⟩
  | cons f fs =>
    rw [worst?]
    constructor
    · intro h
      split at h
      · cases h
      · split at h <;> cases h
    · intro h
      cases h

theorem Finding.worst?_spec {fs : List Finding} {w : Finding} (h : worst? fs = some w) :
    w ∈ fs ∧ ∀ f ∈ fs, f.severity.rank ≤ w.severity.rank := by
  induction fs generalizing w with
  | nil => cases h
  | cons f fs ih =>
    rw [worst?] at h
    split at h
    · rename_i none
      cases h
      rw [worst?_eq_none] at none
      subst none
      exact ⟨List.mem_cons_self .., by simp⟩
    · rename_i g some
      obtain ⟨mem, bound⟩ := ih some
      split at h
      · cases h
        refine ⟨List.mem_cons_self .., ?_⟩
        intro x hx
        rcases List.mem_cons.1 hx with rfl | hx
        · exact Nat.le_refl _
        · have := bound x hx
          omega
      · cases h
        refine ⟨List.mem_cons_of_mem _ mem, ?_⟩
        intro x hx
        rcases List.mem_cons.1 hx with rfl | hx
        · omega
        · exact bound x hx

theorem outcome_derive_reject {fs : List Finding} : (derive fs).1 = .reject ↔ Blocks fs := by
  unfold derive
  split
  · rename_i none
    rw [Finding.worst?_eq_none] at none
    subst none
    exact ⟨fun h => (by cases h), fun h => absurd h not_blocks_nil⟩
  · rename_i w some
    obtain ⟨mem, bound⟩ := Finding.worst?_spec some
    split
    · rename_i high
      exact ⟨fun _ => ⟨w, mem, high⟩, fun _ => rfl⟩
    · rename_i low
      refine ⟨fun h => (by cases h), ?_⟩
      rintro ⟨f, hf, high⟩
      have := bound f hf
      simp only [Severity.isBlocking, decide_eq_true_iff] at high low
      omega

theorem outcome_derive_accept {fs : List Finding} : (derive fs).1 = .accept ↔ fs = [] := by
  unfold derive
  split
  · rename_i none
    exact ⟨fun _ => Finding.worst?_eq_none.1 none, fun _ => rfl⟩
  · rename_i w some
    refine ⟨fun h => ?_, ?_⟩
    · split at h <;> cases h
    · rintro rfl
      cases some

theorem risk_derive (fs : List Finding) : (derive fs).2 =
    match (derive fs).1 with
    | .accept => .safe
    | .acceptWithWarnings => .medium
    | .reject => .high := by
  unfold derive
  split
  · rfl
  · split <;> rfl

theorem rank_derive_mono {fs gs : List Finding} (h : fs ⊆ gs) :
    (derive fs).1.rank ≤ (derive gs).1.rank ∧ (derive fs).2.rank ≤ (derive gs).2.rank := by
  have outcome : (derive fs).1.rank ≤ (derive gs).1.rank := by
    cases of : (derive fs).1 with
    | accept => exact Nat.zero_le _
    | acceptWithWarnings =>
      cases og : (derive gs).1 with
      | accept =>
        obtain rfl := outcome_derive_accept.1 og
        obtain rfl := List.subset_nil.1 h
        cases of
      | acceptWithWarnings => exact Nat.le_refl _
      | reject => decide
    | reject =>
      obtain ⟨f, hf, high⟩ := outcome_derive_reject.1 of
      rw [outcome_derive_reject.2 ⟨f, h hf, high⟩]
  refine ⟨outcome, ?_⟩
  rw [risk_derive fs, risk_derive gs]
  revert outcome
  cases (derive fs).1 <;> cases (derive gs).1 <;> decide

/-! ### Decoding -/

theorem Severity.find?_all (s : Severity) : all.find? (·.1 == s.name) = some (s.name, s) := by cases s <;> rfl

theorem RiskLevel.find?_all (r : RiskLevel) : all.find? (·.1 == r.name) = some (r.name, r) := by cases r <;> rfl

theorem Outcome.find?_all (o : Outcome) : all.find? (·.1 == o.name) = some (o.name, o) := by cases o <;> rfl

theorem Category.find?_all (c : Category) : all.find? (·.1 == c.name) = some (c.name, c) := by cases c <;> rfl

/-- A place as a program holds one: line and column have 32 bits. -/
structure Location.IsValid (l : Location) : Prop where
  line : l.line < 2 ^ 32
  column : l.column < 2 ^ 32

section Decoding
variable {level : ℕ}

theorem Location.decoder_docOf {l : Location} (h : l.IsValid) (room : level + 1 ≤ Json.maxDepth) :
    decoder (docOf level l.toJson) = .ok l := by
  rw [decoder, toJson, Json.record_docOf room rfl (by decide)]
  simp only [Json.Fields.read_seq, Json.Fields.read_map, Json.Fields.read_required]
  simp [Json.string_docOf, Json.nat_docOf h.line, Json.nat_docOf h.column]

theorem Location.isValid_of_decoder {doc : Json.Doc} {l : Location} (h : decoder doc = .ok l) : l.IsValid := by
  obtain ⟨slot, read, -⟩ := Json.slots_of_record h
  obtain ⟨f, read₁, item, -, rfl⟩ := Json.Fields.read_seq.1 read
  obtain ⟨f, read₂, column, hcolumn, rfl⟩ := Json.Fields.read_seq.1 read₁
  obtain ⟨line, hline, rfl⟩ := Json.Fields.read_map.1 read₂
  obtain ⟨_, _, -, hline⟩ := Json.Fields.read_required_eq_ok.1 hline
  obtain ⟨_, _, -, hcolumn⟩ := Json.Fields.read_required_eq_ok.1 hcolumn
  exact ⟨Json.lt_of_nat hline, Json.lt_of_nat hcolumn⟩

theorem Finding.decoder_docOf {f : Finding} (h : f.location.IsValid) (room : level + 2 ≤ Json.maxDepth) :
    decoder (docOf level f.toJson) = .ok f := by
  have location : Location.decoder (docOf (level + 1) f.location.toJson) = .ok f.location := Location.decoder_docOf h room
  rw [decoder, toJson, Json.record_docOf (by omega) rfl (by decide)]
  simp only [Json.Fields.read_seq, Json.Fields.read_map, Json.Fields.read_required]
  simp [location, Json.string_docOf, Json.enum_docOf (Category.find?_all _), Json.enum_docOf (Severity.find?_all _)]

theorem Finding.isValid_of_decoder {doc : Json.Doc} {f : Finding} (h : decoder doc = .ok f) : f.location.IsValid := by
  obtain ⟨slot, read, -⟩ := Json.slots_of_record h
  obtain ⟨g, read₁, severity, -, rfl⟩ := Json.Fields.read_seq.1 read
  obtain ⟨g, read₂, message, -, rfl⟩ := Json.Fields.read_seq.1 read₁
  obtain ⟨g, read₃, location, hlocation, rfl⟩ := Json.Fields.read_seq.1 read₂
  obtain ⟨category, -, rfl⟩ := Json.Fields.read_map.1 read₃
  obtain ⟨_, _, -, hlocation⟩ := Json.Fields.read_required_eq_ok.1 hlocation
  exact Location.isValid_of_decoder hlocation

end Decoding

namespace Verdict
variable {v : Verdict}

/-- Every verdict is the one that its findings call for, but that the risk level of an acceptance without findings is open. -/
theorem outcome_eq (v : Verdict) : v.outcome = (derive v.findings).1 ∧ (v.findings ≠ [] → v.riskLevel = (derive v.findings).2) := by
  have checked := v.isConsistent
  simp only [consistent, Bool.or_eq_true, decide_eq_true_eq, Bool.and_eq_true, List.isEmpty_iff] at checked
  rcases checked with derived | ⟨none, accepted⟩
  · exact ⟨congrArg Prod.fst derived, fun _ => congrArg Prod.snd derived⟩
  · rw [none]
    exact ⟨accepted, fun some => absurd rfl some⟩

/-- Whether the places of all findings are ones that a program holds. -/
def IsPlaced (v : Verdict) : Prop := ∀ f ∈ v.findings, f.location.IsValid

theorem decoder_docOf (h : v.IsPlaced) {level : ℕ} (room : level + 4 ≤ Json.maxDepth) :
    decoder (docOf level v.toJson) = .ok v := by
  have findings : Decoder.list Finding.decoder (docOf (level + 1) (.arr (v.findings.map Finding.toJson))) = .ok v.findings :=
    Json.list_docOf (by omega) fun f hf => Finding.decoder_docOf (h f hf) (by omega)
  have parts : Decoder.record partsFields (docOf level v.toJson) = .ok (v.outcome, v.riskLevel, v.findings, v.contentHash) := by
    rw [toJson, partsFields, Json.record_docOf (by omega) rfl (by decide)]
    simp only [Json.Fields.read_seq, Json.Fields.read_map, Json.Fields.read_required]
    simp [RiskLevel.toJson, findings, Json.string_docOf, Json.enum_docOf (Outcome.find?_all _),
      Json.enum_docOf (RiskLevel.find?_all _)]
  have whole : ofParts? v.outcome v.riskLevel v.findings v.contentHash = .ok v := dif_pos v.isConsistent
  simp only [decoder, Decoder.bind, parts, bind_eq_ok]
  exact ⟨_, rfl, by rw [whole]⟩

theorem isPlaced_of_decoder {doc : Json.Doc} (h : decoder doc = .ok v) : v.IsPlaced := by
  obtain ⟨⟨outcome, risk, findings, hash⟩, parts, made⟩ := bind_eq_ok.1 h
  obtain ⟨slot, read, -⟩ := Json.slots_of_record parts
  obtain ⟨g, read₁, hash', -, whole⟩ := Json.Fields.read_seq.1 read
  obtain ⟨g, read₂, fs, hfs, rfl⟩ := Json.Fields.read_seq.1 read₁
  obtain ⟨g, read₃, risk', -, rfl⟩ := Json.Fields.read_seq.1 read₂
  obtain ⟨outcome', -, rfl⟩ := Json.Fields.read_map.1 read₃
  cases whole
  obtain ⟨_, _, -, hfs⟩ := Json.Fields.read_required_eq_ok.1 hfs
  have same : v.findings = findings := by
    dsimp only at made
    unfold ofParts? at made
    split_ifs at made
    cases made
    rfl
  intro f hf
  obtain ⟨d, read⟩ := Json.mem_of_list hfs (same ▸ hf)
  exact Finding.isValid_of_decoder read

theorem isValue (h : v.IsPlaced) : v.toJson.IsValue := by
  have findings : Json.ItemsAreValues (v.findings.map Finding.toJson) := by
    unfold IsPlaced at h
    generalize v.findings = fs at h
    induction fs with
    | nil => trivial
    | cons f fs ih =>
      obtain ⟨first, rest⟩ := List.forall_mem_cons.1 h
      have line := first.line
      have column := first.column
      refine ⟨?_, ih rest⟩
      simp only [Finding.toJson, Location.toJson, Json.IsValue, Json.FieldsAreValues, Json.ofNat, and_true, true_and]
      omega
  exact ⟨trivial, trivial, findings, trivial, trivial⟩

theorem decodeText_compact (h : v.IsPlaced) : Json.decodeText decoder v.toJson.compact = .ok v := by
  rw [Json.decodeText_compact _ (isValue h), decoder_docOf h (by decide)]

/-! ### Where verdicts come from -/

/-- How a verdict is obtained: from findings, for a trusted tier, or from a document. -/
inductive Obtained : Verdict → Prop
  | ofFindings (hash : String) {fs : List Finding} (h : ∀ f ∈ fs, f.location.IsValid) : Obtained (ofFindings hash fs)
  | trusted (tier : Tier) (hash : String) : Obtained (trusted tier hash)
  | decoded {doc : Json.Doc} {v : Verdict} (h : decoder doc = .ok v) : Obtained v

theorem Obtained.isPlaced (h : v.Obtained) : v.IsPlaced := by
  cases h with
  | ofFindings hash h => exact h
  | trusted tier hash => exact fun _ => nofun
  | decoded h => exact isPlaced_of_decoder h

/-- What a verdict must keep to: its outcome follows from its findings, its risk level is not below the outcome, and it is
written as what it is. -/
structure IsUpright (v : Verdict) : Prop where
  reject : v.outcome = .reject ↔ ∃ f ∈ v.findings, f.severity = .high ∨ f.severity = .critical
  warnings : v.outcome = .acceptWithWarnings ↔ v.findings ≠ [] ∧ ∀ f ∈ v.findings, f.severity.isBlocking = false
  accept : v.outcome = .accept ↔ v.findings = []
  rejectRisk : v.outcome = .reject → v.riskLevel = .high
  warningsRisk : v.outcome = .acceptWithWarnings → v.riskLevel = .medium
  reread : Json.decodeText decoder v.toJson.compact = .ok v

end Verdict

theorem isBlocking_iff {s : Severity} : s.isBlocking = true ↔ s = .high ∨ s = .critical := by
  cases s <;> decide

namespace Verdict
variable {v : Verdict}

theorem isUpright (h : v.IsPlaced) : v.IsUpright := by
  obtain ⟨outcome, risk⟩ := v.outcome_eq
  have reject : v.outcome = .reject ↔ Blocks v.findings := by rw [outcome, outcome_derive_reject]
  have accept : v.outcome = .accept ↔ v.findings = [] := by rw [outcome, outcome_derive_accept]
  have mild : ¬ Blocks v.findings ↔ ∀ f ∈ v.findings, f.severity.isBlocking = false := by
    simp only [Blocks, not_exists, not_and, Bool.not_eq_true]
  have severe (some : v.outcome ≠ .accept) := risk (mt accept.2 some)
  rw [risk_derive, ← outcome] at severe
  refine ⟨?_, ?_, accept, fun h => ?_, fun h => ?_, decodeText_compact h⟩
  · simp only [reject, Blocks, isBlocking_iff]
  · rw [← mild, ← reject, ne_eq, ← accept]
    cases v.outcome <;> simp
  · rw [severe (by rw [h]; decide), h]
  · rw [severe (by rw [h]; decide), h]

/-- However a verdict is obtained, it is no milder than its findings, and it is the same once it is written and read again. Findings
that are added to others, in any order, never make the verdict milder. -/
theorem not_downgraded : (∀ v : Verdict, v.Obtained → v.IsUpright) ∧
    ∀ (hash hash' : String) (fs more gs : List Finding), gs.Perm (fs ++ more) →
      (ofFindings hash fs).outcome.rank ≤ (ofFindings hash' gs).outcome.rank ∧
        (ofFindings hash fs).riskLevel.rank ≤ (ofFindings hash' gs).riskLevel.rank := by
  refine ⟨fun v h => isUpright h.isPlaced, fun _ _ fs more gs same => ?_⟩
  exact rank_derive_mono fun f hf => same.mem_iff.2 (List.mem_append_left more hf)

/-- A critical finding before a mild one rejects as it does behind it. -/
theorem not_downgraded_critical :
    let mild : Finding := ⟨.unboundedLoop, ⟨1, 1, "func 0"⟩, "loop", .low⟩
    let severe : Finding := ⟨.dangerousCall, ⟨2, 5, "import env.system"⟩, "call", .critical⟩
    (∀ f ∈ [severe, mild], f.location.IsValid) ∧ [severe, mild].Perm ([mild] ++ [severe]) ∧
      (ofFindings "h" [severe, mild]).outcome = .reject ∧ (ofFindings "h" [severe, mild]).riskLevel = .high ∧
      (ofFindings "h" [mild]).outcome.rank ≤ (ofFindings "h" [severe, mild]).outcome.rank := by
  intro mild severe
  have placed : ∀ f ∈ [severe, mild], f.location.IsValid := by
    simp only [List.forall_mem_cons]
    exact ⟨⟨by decide, by decide⟩, ⟨by decide, by decide⟩, nofun⟩
  have same : [severe, mild].Perm ([mild] ++ [severe]) := List.Perm.swap ..
  have upright := not_downgraded.1 _ (.ofFindings "h" placed)
  have rejected : (ofFindings "h" [severe, mild]).outcome = .reject := upright.reject.2 ⟨severe, List.mem_cons_self .., .inr rfl⟩
  exact ⟨placed, same, rejected, upright.rejectRisk rejected, (not_downgraded.2 "h" "h" _ _ _ same).1⟩

end Verdict

end StrategyHost
