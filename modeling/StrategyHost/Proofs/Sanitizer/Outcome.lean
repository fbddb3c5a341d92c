import StrategyHost.Proofs.Verdict
import StrategyHost.Sanitizer.Memo

/-! # The policy that the analysis decides

What a policy forbids of a module (`Policy.Forbids`) and what it warns of (`Policy.WarnsOf`), and the outcome that it asks for
a source (`Policy.Asks`): one that gives no module within the limit is to be rejected. Main statements:
`outcome_judge_of_ok`, the outcome for a source that can be read, and `asks_outcome_judge_iff`, the outcome is the one asked for
unless a component in binary form is let through, whatever reads components. -/

namespace StrategyHost
open Wasm

theorem flatMap_ne_nil {α β : Type} {xs : List α} {g : α → List β} : xs.flatMap g ≠ [] ↔ ∃ x ∈ xs, g x ≠ [] := by
  simp only [ne_eq, List.flatMap_eq_nil_iff, not_forall, exists_prop]

/-! ### What a policy says of a module -/

namespace Policy
variable (p : Policy)

theorem isHostModule_iff {module : String} : p.isHostModule module = true ↔ module = p.hostModule := beq_iff_eq

theorem isDeniedFunction_iff {name : String} : p.isDeniedFunction name = true ↔ name ∈ p.deniedFunctions :=
  List.contains_iff_mem

theorem isHostFunction_iff {name : String} : p.isHostFunction name = true ↔ name ∈ p.hostFunctions :=
  List.contains_iff_mem

theorem isGated_iff {name : String} : p.isGated name = true ↔ name ∈ p.gatedFunctions := List.contains_iff_mem

/-- The imports that reject a source. -/
def ForbidsImport (i : Import) : Prop :=
  i.module ≠ p.hostModule ∨ i.type.kind ≠ .func ∨ i.name ∈ p.deniedFunctions ∨ i.name ∉ p.hostFunctions ∨
    Sanitizer.isInternal i.module = true ∨ Sanitizer.isInternal i.name = true

/-- The modules that reject a source. -/
def Forbids (m : Module) : Prop :=
  (∃ i ∈ m.imports, p.ForbidsImport i) ∨ ∃ e ∈ m.exports, Sanitizer.isInternal e.name = true

/-- The modules that call for a warning. -/
def WarnsOf (m : Module) : Prop :=
  (∃ i ∈ m.imports, i.name ∈ p.gatedFunctions) ∨ (∃ e ∈ m.exports, e.kind = .global ∨ e.kind = .table) ∨
    m.start?.isSome = true ∨
    ∃ f ∈ m.funcs, 0 < Sanitizer.unboundedLoops f.body ∨ Sanitizer.callsIndirectly f.body = true

end Policy

namespace Sanitizer
open Text
variable {p : Policy} {text : List UInt8} {places : Places} {place : Location}

theorem ite_ne_nil {c : Prop} [Decidable c] {f : Finding} : (if c then [f] else []) ≠ [] ↔ c := by
  split <;> simp_all

theorem blocks_ite {c : Prop} [Decidable c] {f : Finding} :
    Blocks (if c then [f] else []) ↔ c ∧ f.severity.isBlocking = true := by
  split
  · rename_i h
    rw [blocks_singleton]
    exact ⟨fun high => ⟨h, high⟩, And.right⟩
  · rename_i h
    exact ⟨fun blocks => absurd blocks not_blocks_nil, fun high => absurd high.1 h⟩

theorem isBlocking_high : Severity.isBlocking .high = true := rfl

theorem isBlocking_critical : Severity.isBlocking .critical = true := rfl

def hostFindings (p : Policy) (i : Import) (place : Location) : List Finding :=
  if !p.isHostModule i.module then
    match p.moduleDenial? i.module with
    | some reason => [⟨.dangerousImport, place,
        "import of deny-listed module " ++ quoted i.module ++ " (" ++ reason ++ ")", .critical⟩]
    | none => [⟨.dangerousImport, place,
        "import of module " ++ quoted i.module ++ ", only " ++ quoted p.hostModule ++ " is allowed", .high⟩]
  else if i.type.kind != .func then
    [⟨.dangerousAttribute, place, "import of host " ++ i.type.kind.name ++ " " ++ quoted i.name, .high⟩]
  else if p.isDeniedFunction i.name then []
  else if !p.isHostFunction i.name then
    [⟨.dangerousCall, place, "host function " ++ quoted i.name ++ " is not part of the host API", .high⟩]
  else if p.isGated i.name then
    [⟨.capabilityRequest, place, "uses capability-gated host function " ++ quoted i.name, .medium⟩]
  else []

theorem importFindings_eq (i : Import) : importFindings p i place =
    (if isInternal i.module || isInternal i.name then
      [⟨.dangerousAttribute, place,
        "import " ++ quoted i.module ++ "." ++ quoted i.name ++ " reaches into internal names", .high⟩] else []) ++
    (if p.isDeniedFunction i.name then
      [⟨.dangerousCall, place, "call to deny-listed function " ++ quoted i.name, .critical⟩] else []) ++
    hostFindings p i place := rfl

/-- A denied function is passed over here: it has a finding of its own. -/
theorem hostFindings_spec {i : Import} :
    (Blocks (hostFindings p i place) ↔ i.module ≠ p.hostModule ∨ i.type.kind ≠ .func ∨
      i.name ∉ p.deniedFunctions ∧ i.name ∉ p.hostFunctions) ∧
    (hostFindings p i place ≠ [] ↔ i.module ≠ p.hostModule ∨ i.type.kind ≠ .func ∨
      i.name ∉ p.deniedFunctions ∧ (i.name ∉ p.hostFunctions ∨ i.name ∈ p.gatedFunctions)) := by
  unfold hostFindings
  simp only [← Policy.isDeniedFunction_iff, ← Policy.isHostFunction_iff, ← Policy.isGated_iff]
  by_cases host : i.module = p.hostModule
  · rw [p.isHostModule_iff.2 host]
    by_cases func : i.type.kind = .func
    · simp only [func]
      cases p.isDeniedFunction i.name <;> cases p.isHostFunction i.name <;> cases p.isGated i.name <;>
        simp [host, blocks_singleton, not_blocks_nil, Severity.isBlocking, Severity.rank]
    · simp [func, blocks_singleton, isBlocking_high]
  · rw [Bool.eq_false_iff.2 (mt p.isHostModule_iff.1 host)]
    cases p.moduleDenial? i.module <;> simp [host, blocks_singleton, isBlocking_high, isBlocking_critical]

theorem blocks_importFindings {i : Import} : Blocks (importFindings p i place) ↔ p.ForbidsImport i := by
  rw [importFindings_eq, blocks_append, blocks_append, blocks_ite, blocks_ite, hostFindings_spec.1]
  simp only [isBlocking_high, isBlocking_critical, and_true, Bool.or_eq_true, Policy.isDeniedFunction_iff,
    Policy.ForbidsImport]
  grind

theorem append_ne_nil {fs gs : List Finding} : fs ++ gs ≠ [] ↔ fs ≠ [] ∨ gs ≠ [] := by
  cases fs <;> simp

theorem importFindings_ne_nil {i : Import} :
    importFindings p i place ≠ [] ↔ p.ForbidsImport i ∨ i.name ∈ p.gatedFunctions := by
  rw [importFindings_eq, append_ne_nil, append_ne_nil, ite_ne_nil, ite_ne_nil, hostFindings_spec.2]
  simp only [Bool.or_eq_true, Policy.isDeniedFunction_iff, Policy.ForbidsImport]
  grind

theorem exportFindings_eq (e : Export) : exportFindings e place =
    (if isInternal e.name then
      [⟨.dangerousAttribute, place, "export " ++ quoted e.name ++ " uses a reserved internal name", .high⟩] else []) ++
    match e.kind with
    | .global => [⟨.dangerousAttribute, place, "export " ++ quoted e.name ++ " exposes a Global", .low⟩]
    | .table => [⟨.dangerousAttribute, place, "export " ++ quoted e.name ++ " exposes a Table", .low⟩]
    | _ => [] := rfl

theorem blocks_exportFindings {e : Export} : Blocks (exportFindings e place) ↔ isInternal e.name = true := by
  rw [exportFindings_eq, blocks_append, blocks_ite]
  cases e.kind <;> simp [blocks_singleton, not_blocks_nil, Severity.isBlocking, Severity.rank]

theorem exportFindings_ne_nil {e : Export} :
    exportFindings e place ≠ [] ↔ isInternal e.name = true ∨ e.kind = .global ∨ e.kind = .table := by
  rw [exportFindings_eq, append_ne_nil, ite_ne_nil]
  cases e.kind <;> simp

theorem not_blocks_startFindings {start? : Option Nat} : ¬ Blocks (startFindings text start?) := by
  cases start? with
  | none => exact not_blocks_nil
  | some f =>
    rw [startFindings, blocks_singleton]
    exact Bool.false_ne_true

theorem startFindings_ne_nil {start? : Option Nat} : startFindings text start? ≠ [] ↔ start?.isSome = true := by
  cases start? <;> simp [startFindings]

theorem not_blocks_bodyFindings {b : Body} : ¬ Blocks (bodyFindings b place) := by
  unfold bodyFindings
  rw [blocks_append, blocks_ite, blocks_ite]
  simp [Severity.isBlocking, Severity.rank]

theorem bodyFindings_ne_nil {b : Body} :
    bodyFindings b place ≠ [] ↔ 0 < unboundedLoops b ∨ callsIndirectly b = true := by
  unfold bodyFindings
  rw [append_ne_nil, ite_ne_nil, ite_ne_nil]

/-! ### What is found in modules -/

theorem blocks_moduleFindings {first : Nat} {m : Module} :
    Blocks (moduleFindings p text places first m) ↔ p.Forbids m := by
  unfold moduleFindings
  simp only [blocks_append, blocks_flatMap, blocks_importFindings, blocks_exportFindings, not_blocks_startFindings,
    not_blocks_bodyFindings, Policy.Forbids]
  simp

theorem exists_mem_zipIdx {α : Type} {xs : List α} {first : Nat} {P : α → Prop} :
    (∃ x ∈ xs.zipIdx first, P x.1) ↔ ∃ x ∈ xs, P x := by
  constructor
  · rintro ⟨⟨x, n⟩, hx, h⟩
    exact ⟨x, List.fst_mem_of_mem_zipIdx hx, h⟩
  · rintro ⟨x, hx, h⟩
    rw [← List.zipIdx_map_fst first xs] at hx
    obtain ⟨y, hy, rfl⟩ := List.mem_map.1 hx
    exact ⟨y, hy, h⟩

theorem moduleFindings_ne_nil {first : Nat} {m : Module} :
    moduleFindings p text places first m ≠ [] ↔ p.Forbids m ∨ p.WarnsOf m := by
  unfold moduleFindings
  rw [append_ne_nil, append_ne_nil, append_ne_nil, flatMap_ne_nil, flatMap_ne_nil, flatMap_ne_nil]
  simp only [importFindings_ne_nil, exportFindings_ne_nil, startFindings_ne_nil, bodyFindings_ne_nil,
    Policy.Forbids, Policy.WarnsOf, and_or_left, exists_or]
  rw [exists_mem_zipIdx (P := fun f : Func => 0 < unboundedLoops f.body),
    exists_mem_zipIdx (P := fun f : Func => callsIndirectly f.body = true)]
  grind

theorem blocks_modulesFindings {first : Nat} {ms : List Module} :
    Blocks (modulesFindings p text places first ms) ↔ ∃ m ∈ ms, p.Forbids m := by
  induction ms generalizing first with
  | nil => simp [modulesFindings, not_blocks_nil]
  | cons m ms ih =>
    rw [modulesFindings, blocks_append, blocks_moduleFindings, ih]
    simp

theorem modulesFindings_ne_nil {first : Nat} {ms : List Module} :
    modulesFindings p text places first ms ≠ [] ↔ ∃ m ∈ ms, p.Forbids m ∨ p.WarnsOf m := by
  induction ms generalizing first with
  | nil => simp [modulesFindings]
  | cons m ms ih =>
    rw [modulesFindings, append_ne_nil, moduleFindings_ne_nil, ih]
    simp

end Sanitizer

/-! ### Components in binary form -/

/-- Whether a text holds the bytes of a component, in binary form. -/
def IsComponent (text : String) (bytes : List UInt8) : Prop :=
  ∃ source, Source.read text = .ok source ∧ source.component? = some bytes

section Component
variable {read : ComponentReader} {f : Features} {text : String} {bytes : List UInt8}

theorem compileAll_of_read {source : Source} (hr : Source.read text = .ok source) : compileAll read f text =
    match source.component? with
    | some bytes => ((read bytes).mapError .invalid).map fun ms => (source.fields, ms)
    | none => (source.toModule f).map fun m => (source.fields, [m]) := by
  rw [compileAll, hr]
  change (match source.component? with
    | some bytes => ((read bytes).mapError CompileFault.invalid).bind fun ms => pure (source.fields, ms)
    | none => (source.toModule f).bind fun m => pure (source.fields, [m])) = _
  cases source.component? with
  | some bytes => cases read bytes <;> rfl
  | none => cases source.toModule f <;> rfl

theorem compileAll_of_component (read : ComponentReader) (f : Features) (h : IsComponent text bytes) :
    ∃ fields, compileAll read f text = ((read bytes).mapError .invalid).map fun ms => (fields, ms) := by
  obtain ⟨source, hr, hc⟩ := h
  exact ⟨source.fields, by rw [compileAll_of_read hr, hc]⟩

theorem compileAll_of_not_component (read : ComponentReader) (f : Features) (h : ∀ bytes, ¬ IsComponent text bytes) :
    compileAll read f text = (compile f text).map fun (fields, m) => (fields, [m]) := by
  cases hr : Source.read text with
  | error e =>
    rw [compileAll, compile, hr]
    rfl
  | ok source =>
    have none : source.component? = none := Option.eq_none_iff_forall_ne_some.2 fun bytes hc => h bytes ⟨source, hr, hc⟩
    rw [compileAll_of_read hr, none, compile, hr]
    change _ = ((source.toModule f).bind fun m => pure (source.fields, m)).map _
    cases source.toModule f <;> rfl

theorem decode_of_component (h : Decode.componentPreamble.isPrefixOf bytes = true) :
    Module.decode bytes = .error .malformed := by
  obtain ⟨rest, rfl⟩ := List.isPrefixOf_iff_prefix.1 h
  rfl

theorem toModule_of_component {source : Source} (h : source.component? = some bytes) :
    source.toModule f = .error (.invalid .malformed) := by
  cases source with
  | binary bs =>
    obtain ⟨begins, -⟩ : Decode.componentPreamble.isPrefixOf bs = true ∧ bs = bytes := by simpa [Source.component?] using h
    rw [Source.toModule, decode_of_component begins]
    rfl
  | _ => cases h

theorem compile_of_component (h : IsComponent text bytes) (found : List Field × Module) : compile f text ≠ .ok found := by
  obtain ⟨source, hr, hc⟩ := h
  rw [compile, hr]
  change (source.toModule f).bind (fun m => pure (source.fields, m)) ≠ _
  rw [toModule_of_component hc]
  exact nofun

end Component

/-! ### What a policy asks for a source -/

namespace Policy
variable (p : Policy) (text : String)

/-- Whether a source is to be rejected: it is too long, gives no valid module, or gives one that is forbidden. -/
def Refuses : Prop :=
  p.maxSourceBytes < text.utf8ByteSize ∨ (∀ fields m, compile .all text ≠ .ok (fields, m)) ∨
    ∃ fields m, compile .all text = .ok (fields, m) ∧ p.Forbids m

def Warns : Prop := ∃ fields m, compile .all text = .ok (fields, m) ∧ p.WarnsOf m

def Asks : Outcome → Prop
  | .reject => p.Refuses text
  | .acceptWithWarnings => ¬ p.Refuses text ∧ p.Warns text
  | .accept => ¬ p.Refuses text ∧ ¬ p.Warns text

/-- Whether a source within the limit is a component in binary form that is valid and holds no forbidden module. -/
def LetsComponentPass (read : ComponentReader) : Prop :=
  text.utf8ByteSize ≤ p.maxSourceBytes ∧ ∃ bytes ms, IsComponent text bytes ∧ read bytes = .ok ms ∧ ∀ m ∈ ms, ¬ p.Forbids m

end Policy

namespace Sanitizer
variable {read : ComponentReader} {p : Policy} {text : String}

theorem blocks_faultFinding {bytes : List UInt8} {fault : CompileFault} : Blocks [faultFinding bytes fault] := by
  rw [blocks_singleton]
  cases fault <;> rfl

theorem blocks_findings_of_long (h : p.maxSourceBytes < text.utf8ByteSize) : Blocks (findings read p text) := by
  rw [findings, if_pos h, blocks_singleton]
  rfl

theorem findings_of_error (h : text.utf8ByteSize ≤ p.maxSourceBytes) {fault : CompileFault}
    (hc : compileAll read .all text = .error fault) :
    findings read p text = [faultFinding text.toUTF8.toList fault] := by
  rw [findings, if_neg (Nat.not_lt.2 h), hc]

theorem findings_of_ok (h : text.utf8ByteSize ≤ p.maxSourceBytes) {fields : List Field} {ms : List Module}
    (hc : compileAll read .all text = .ok (fields, ms)) :
    findings read p text = modulesFindings p text.toUTF8.toList (Places.ofFields fields) 0 ms := by
  rw [findings, if_neg (Nat.not_lt.2 h), hc]

/-- The outcome for a source that can be read, by the modules in it. -/
theorem outcome_judge_of_ok (h : text.utf8ByteSize ≤ p.maxSourceBytes) {fields : List Field} {ms : List Module}
    (hc : compileAll read .all text = .ok (fields, ms)) :
    ((judge read p text).outcome = .reject ↔ ∃ m ∈ ms, p.Forbids m) ∧
      ((judge read p text).outcome = .accept ↔ ∀ m ∈ ms, ¬ p.Forbids m ∧ ¬ p.WarnsOf m) := by
  constructor
  · rw [judge, Verdict.ofFindings, outcome_derive_reject, findings_of_ok h hc, blocks_modulesFindings]
  · rw [judge, Verdict.ofFindings, outcome_derive_accept, findings_of_ok h hc, ← not_iff_not, ← ne_eq,
      modulesFindings_ne_nil]
    simp only [not_forall, exists_prop, ← not_or, not_not]

theorem outcome_judge_of_fault
    (h : p.maxSourceBytes < text.utf8ByteSize ∨ ∃ fault, compileAll read .all text = .error fault) :
    (judge read p text).outcome = .reject := by
  rw [judge, Verdict.ofFindings, outcome_derive_reject]
  rcases Nat.lt_or_ge p.maxSourceBytes text.utf8ByteSize with long | short
  · exact blocks_findings_of_long long
  · obtain ⟨fault, hc⟩ := h.resolve_left (Nat.not_lt.2 short)
    rw [findings_of_error short hc]
    exact blocks_faultFinding

theorem asks_of_refuses (h : p.Refuses text) (o : Outcome) : p.Asks text o ↔ o = .reject := by
  cases o with
  | accept => exact ⟨fun asks => absurd h asks.1, fun reject => (by cases reject)⟩
  | acceptWithWarnings => exact ⟨fun asks => absurd h asks.1, fun reject => (by cases reject)⟩
  | reject => exact ⟨fun _ => rfl, fun _ => h⟩

section Module
variable {fields : List Field} {m : Module} (h : text.utf8ByteSize ≤ p.maxSourceBytes)
  (hc : compile .all text = .ok (fields, m))
include h hc

theorem refuses_iff_forbids : p.Refuses text ↔ p.Forbids m := by
  constructor
  · rintro (long | none | ⟨fields', m', hc', forbidden⟩)
    · exact absurd long (Nat.not_lt.2 h)
    · exact absurd hc (none fields m)
    · rw [hc] at hc'
      cases hc'
      exact forbidden
  · exact fun forbidden => .inr (.inr ⟨fields, m, hc, forbidden⟩)

omit h in
theorem warns_iff_warnsOf : p.Warns text ↔ p.WarnsOf m := by
  constructor
  · rintro ⟨fields', m', hc', warns⟩
    rw [hc] at hc'
    cases hc'
    exact warns
  · exact fun warns => ⟨fields, m, hc, warns⟩

theorem asks_outcome_of_module (hall : compileAll read .all text = .ok (fields, [m])) :
    p.Asks text (judge read p text).outcome := by
  obtain ⟨reject, accept⟩ := outcome_judge_of_ok h hall
  simp only [List.mem_singleton, exists_eq_left, forall_eq] at reject accept
  have refuses := refuses_iff_forbids h hc
  have warns := warns_iff_warnsOf (p := p) hc
  cases ho : (judge read p text).outcome with
  | accept =>
    rw [ho] at accept
    obtain ⟨allowed, quiet⟩ := accept.1 rfl
    exact ⟨mt refuses.1 allowed, mt warns.1 quiet⟩
  | acceptWithWarnings =>
    rw [ho] at reject accept
    have allowed : ¬ p.Forbids m := fun forbidden => by cases reject.2 forbidden
    have loud : p.WarnsOf m := Classical.byContradiction fun quiet => by cases accept.2 ⟨allowed, quiet⟩
    exact ⟨mt refuses.1 allowed, warns.2 loud⟩
  | reject =>
    rw [ho] at reject
    exact refuses.2 (reject.1 rfl)

end Module

/-- A component is to be rejected, and is just if it is not valid or a module in it is forbidden. -/
theorem asks_outcome_of_component (h : text.utf8ByteSize ≤ p.maxSourceBytes) {bytes : List UInt8} (hb : IsComponent text bytes) :
    p.Asks text (judge read p text).outcome ↔ ¬ ∃ ms, read bytes = .ok ms ∧ ∀ m ∈ ms, ¬ p.Forbids m := by
  have refuses : p.Refuses text := .inr (.inl fun fields m => compile_of_component hb (fields, m))
  obtain ⟨fields, all⟩ := compileAll_of_component read .all hb
  rw [asks_of_refuses refuses]
  cases hms : read bytes with
  | error e =>
    rw [outcome_judge_of_fault (.inr ⟨.invalid e, by rw [all, hms]; rfl⟩)]
    simp
  | ok ms =>
    rw [(outcome_judge_of_ok h (by rw [all, hms]; rfl)).1]
    simp

theorem letsComponentPass_iff (h : text.utf8ByteSize ≤ p.maxSourceBytes) {bytes : List UInt8} (hb : IsComponent text bytes) :
    p.LetsComponentPass text read ↔ ∃ ms, read bytes = .ok ms ∧ ∀ m ∈ ms, ¬ p.Forbids m := by
  constructor
  · rintro ⟨-, bytes', ms, ⟨source', hr', hc'⟩, hms, allowed⟩
    obtain ⟨source, hr, hc⟩ := hb
    obtain rfl : source = source' := Except.ok.inj (hr.symm.trans hr')
    obtain rfl : bytes = bytes' := Option.some.inj (hc.symm.trans hc')
    exact ⟨ms, hms, allowed⟩
  · rintro ⟨ms, hms, allowed⟩
    exact ⟨h, bytes, ms, hb, hms, allowed⟩

/-- Whatever reads components, the outcome is the one that the policy asks for, but for components in binary form, which pass if they
are valid and no module in them is forbidden. -/
theorem asks_outcome_judge_iff (read : ComponentReader) (p : Policy) (text : String) :
    p.Asks text (judge read p text).outcome ↔ ¬ p.LetsComponentPass text read := by
  rcases Nat.lt_or_ge p.maxSourceBytes text.utf8ByteSize with long | short
  · rw [outcome_judge_of_fault (.inl long)]
    exact ⟨fun _ pass => absurd pass.1 (Nat.not_le.2 long), fun _ => .inl long⟩
  by_cases component : ∃ bytes, IsComponent text bytes
  · obtain ⟨bytes, hb⟩ := component
    rw [asks_outcome_of_component short hb, letsComponentPass_iff short hb]
  have all := compileAll_of_not_component read .all (not_exists.1 component)
  have noPass : ¬ p.LetsComponentPass text read := fun ⟨_, bytes, _, hb, _⟩ => component ⟨bytes, hb⟩
  refine iff_of_true ?_ noPass
  cases hc : compile .all text with
  | error fault =>
    rw [outcome_judge_of_fault (.inr ⟨fault, by rw [all, hc]; rfl⟩)]
    exact .inr (.inl fun fields m => by simp [hc])
  | ok found => exact asks_outcome_of_module short hc (by rw [all, hc]; rfl)

theorem not_asks_of_empty {bytes : List UInt8} (h : text.utf8ByteSize ≤ p.maxSourceBytes) (hb : IsComponent text bytes)
    (empty : read bytes = .ok []) : ¬ p.Asks text (judge read p text).outcome :=
  fun asks => (asks_outcome_of_component h hb).1 asks ⟨[], empty, List.forall_mem_nil _⟩

def holdsComponent (text : String) (bytes : List UInt8) : Bool :=
  match Source.read text with
  | .ok source => source.component? == some bytes
  | .error _ => false

theorem isComponent_of_holds {bytes : List UInt8} (h : holdsComponent text bytes = true) : IsComponent text bytes := by
  unfold holdsComponent at h
  split at h
  case h_1 source hr => exact ⟨source, hr, eq_of_beq h⟩
  case h_2 => cases h

/-- The bytes of an empty component are not rejected. -/
theorem not_asks_outcome_judge : ¬ ∀ (p : Policy) (text : String), p.Asks text (judge plainComponent p text).outcome := by
  intro asks
  let text := "(module binary \"\\00asm\\0d\\00\\01\\00\")"
  have short : text.utf8ByteSize ≤ Policy.standard.maxSourceBytes := by decide +kernel
  have held : IsComponent text Decode.componentPreamble := isComponent_of_holds (by decide +kernel)
  have empty : plainComponent Decode.componentPreamble = .ok [] := rfl
  exact not_asks_of_empty short held empty (asks .standard text)

end Sanitizer

end StrategyHost
