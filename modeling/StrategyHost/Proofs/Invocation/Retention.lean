import StrategyHost.Proofs.Invocation.Guest
import StrategyHost.Proofs.Json.Extent
import StrategyHost.Proofs.Text.Lossy

/-! # What the host keeps for a guest

A guest is charged for a buffer before its bytes are read, by its length. What the host keeps is the text that the bytes decode to, or
the strings of a signal in it. `Holding.Turn` says what one act of a guest does to what is kept and charged, `Holding.Sound` is the
invariant of a visit, and `Visit.retained_runAll` compares the two for every sequence of acts. What no program can break is
`Guest.covered_run`. -/

namespace StrategyHost
open Wasm (Memory Value)

def Signal.textBytes (s : Signal) : ℕ := s.symbol.utf8ByteSize + s.reason.elim 0 String.utf8ByteSize

theorem Signal.textBytes_le {text : String} {s : Signal} (h : Json.decodeText Signal.decoder text = .ok s) :
    s.textBytes ≤ text.utf8ByteSize := by
  obtain ⟨d, read, short⟩ := Json.doc_of_decodeText h
  obtain ⟨slot, read, apart⟩ := Json.slots_of_record read
  refine le_trans ?_ short
  obtain ⟨f, read₁, reason, hreason, rfl⟩ := Json.Fields.read_seq.1 read
  obtain ⟨f, read₂, confidence, -, rfl⟩ := Json.Fields.read_seq.1 read₁
  obtain ⟨f, read₃, quantity, -, rfl⟩ := Json.Fields.read_seq.1 read₂
  obtain ⟨f, read₄, side, -, rfl⟩ := Json.Fields.read_seq.1 read₃
  obtain ⟨symbol, hsymbol, rfl⟩ := Json.Fields.read_map.1 read₄
  have symbolSize : symbol.utf8ByteSize = (slot "symbol").extent := by
    obtain ⟨place, doc, there, read⟩ := Json.Fields.read_required_eq_ok.1 hsymbol
    rw [there, Json.string_eq_ok read]
    rfl
  have reasonSize : reason.elim 0 String.utf8ByteSize ≤ (slot "reason").extent := by
    cases reason with
    | none => exact Nat.zero_le _
    | some r =>
      rcases Json.Fields.read_withDefault_eq_ok hreason with absent | ⟨place, doc, there, read⟩
      · cases absent
      · rw [there, Json.string_eq_ok (Json.option_eq_ok read)]
        exact Nat.le_refl _
  have both := apart "symbol" "reason" (by decide) (by decide)
  show symbol.utf8ByteSize + reason.elim 0 String.utf8ByteSize ≤ d.extent
  omega

/-! ### Acts of a guest -/

/-- What a guest does that its account may be charged for: it calls a function of the host, or asks for a memory. Its present memory
has at most `2 ^ 16` pages, and it asks for fewer than `2 ^ 32` more. -/
inductive GuestAct where
  | call (f : HostFunction) (memory : Memory) (args : List Value)
  | grow (pages : ℕ) (h : pages < 2 ^ 33)

namespace GuestAct

def run : GuestAct → Serve Unit
  | call f memory args => do let _ ← f.serve memory args
  | grow pages _ => Serve.charge (·.grow (pages * Memory.pageSize))

/-- The bytes between a pointer and the end of a buffer. -/
def bytesAt? (memory : Memory) (pointer length : ℤ) : Option (List UInt8) :=
  if pointer < 0 || length < 0 then none else memory.read? pointer.toNat length.toNat

def buffer? : GuestAct → Option (List UInt8)
  | call .log memory [.i32 p, .i32 n] | call .emitSignal memory [.i32 p, .i32 n] => bytesAt? memory p.toInt32.toInt n.toInt32.toInt
  | _ => none

def KeepsSize (a : GuestAct) : Prop := ∀ bytes ∈ a.buffer?, (Text.decodeLossy bytes).utf8ByteSize ≤ bytes.length

theorem keepsSize_of_text {a : GuestAct} (h : ∀ bytes ∈ a.buffer?, ∃ s : String, bytes = s.toUTF8.data.toList) : a.KeepsSize := by
  intro bytes handed
  obtain ⟨s, rfl⟩ := h bytes handed
  rw [Text.decodeLossy_toUTF8]
  exact Nat.le_refl _

def emits : GuestAct → Bool
  | call .emitSignal _ _ => true
  | _ => false

end GuestAct

/-! ### What is kept and charged -/

/-- What the host keeps for a guest, and what the guest is charged for it and for its memory. -/
structure Holding where
  logs : List String
  signals : List Signal
  limit : ℕ
  linear : ℕ
  host : ℕ

def Visit.holding (v : Visit) : Holding := ⟨v.logs, v.signals, v.account.limit, v.account.linear, v.account.host⟩

namespace Holding
open GuestFault (maxBuffer maxLogs maxSignals)

def retained (h : Holding) : ℕ := (h.logs.map String.utf8ByteSize).sum + (h.signals.map Signal.textBytes).sum

def kept (h : Holding) : ℕ := h.logs.length + h.signals.length

def addLine (h : Holding) (line : String) (n : ℕ) : Holding := { h with logs := h.logs ++ [line], host := h.host + n }

def addSignal (h : Holding) (s : Signal) (n : ℕ) : Holding := { h with signals := h.signals ++ [s], host := h.host + n }

theorem retained_addLine (h : Holding) (line : String) (n : ℕ) : (h.addLine line n).retained = h.retained + line.utf8ByteSize := by
  simp [retained, addLine, Nat.add_right_comm]

theorem retained_addSignal (h : Holding) (s : Signal) (n : ℕ) : (h.addSignal s n).retained = h.retained + s.textBytes := by
  simp [retained, addSignal, Nat.add_assoc]

theorem kept_addLine (h : Holding) (line : String) (n : ℕ) : (h.addLine line n).kept = h.kept + 1 := by
  simp [kept, addLine, Nat.add_right_comm]

theorem kept_addSignal (h : Holding) (s : Signal) (n : ℕ) : (h.addSignal s n).kept = h.kept + 1 := by
  simp [kept, addSignal, Nat.add_assoc]

/-- `n` more bytes for the host are within the limit. -/
def Affords (h : Holding) (n : ℕ) : Prop := Limits.saturate (Limits.saturate (h.linear + h.host) + n) ≤ h.limit

/-- What an act may do to a holding, and whether the guest goes on. -/
inductive Turn (a : GuestAct) (h : Holding) : Bool → Holding → Prop
  | idle {goesOn : Bool} (nothing : goesOn = true → a.buffer? = none) : Turn a h goesOn h
  | wasted {n : ℕ} (short : n ≤ maxBuffer) (affords : h.Affords n) : Turn a h false { h with host := h.host + n }
  | line {bytes : List UInt8} (isLine : a.emits = false) (handed : a.buffer? = some bytes) (short : bytes.length ≤ maxBuffer)
      (few : h.logs.length < maxLogs) (affords : h.Affords bytes.length) :
      Turn a h true (h.addLine (Text.decodeLossy bytes) bytes.length)
  | signal {bytes : List UInt8} {s : Signal} (emits : a.emits = true) (handed : a.buffer? = some bytes)
      (short : bytes.length ≤ maxBuffer) (few : h.signals.length < maxSignals) (affords : h.Affords bytes.length)
      (read : Json.decodeText Signal.decoder (Text.decodeLossy bytes) = .ok s) :
      Turn a h true (h.addSignal s bytes.length)
  | grown {linear : ℕ} (nothing : a.buffer? = none) (small : linear < 2 ^ 49) (affords : Limits.saturate (linear + h.host) ≤ h.limit) :
      Turn a h true { h with linear }

end Holding

/-! ### One act -/

section
variable {α : Type} {v : Visit} {memory : Memory} {p n : ℤ}
open GuestFault (maxBuffer)

theorem Wasm.Memory.length_of_read? {m : Memory} {a n : ℕ} {bytes : List UInt8} (h : m.read? a n = some bytes) : bytes.length = n := by
  unfold Memory.read? at h
  split at h <;> cases h
  rw [List.length_map, List.length_range]

namespace Serve

theorem run_charge (op : MemoryAccount → Except Breach Unit × MemoryAccount) (v : Visit) : (charge op).run.run v =
    match op v.account with
    | (.ok (), account) => (.ok (), { v with account })
    | (.error b, account) => (.error (.breach b), { v with account }) := by
  rw [charge, Law.run_get]
  rcases op v.account with ⟨b | _, account⟩ <;> rfl

theorem run_require (c : Capability) (v : Visit) : (require c).run.run v = (.ok (), v) ∨
    ∃ e v', (require c).run.run v = (.error e, v') ∧ v'.holding = v.holding := by
  rw [require, Law.run_get]
  rcases v.grant.check c with ⟨denial, event⟩ | _
  · exact .inr ⟨_, _, rfl, rfl⟩
  · exact .inl rfl

theorem run_chargeBuffer (v : Visit) (n : ℤ) : (∃ e v', (chargeBuffer n).run.run v = (.error e, v') ∧ v'.holding = v.holding) ∨
    (n.toNat ≤ maxBuffer ∧ v.holding.Affords n.toNat ∧ ∃ v', (chargeBuffer n).run.run v = (.ok (), v') ∧
      v'.holding = { v.holding with host := v.account.host + n.toNat }) := by
  unfold chargeBuffer
  split
  · exact .inl ⟨_, v, rfl, rfl⟩
  dsimp only
  split
  · exact .inl ⟨_, v, rfl, rfl⟩
  rename_i short
  rw [run_charge, MemoryAccount.reserve]
  by_cases beyond : v.account.limit < Limits.saturate (Limits.saturate (v.account.linear + v.account.host) + n.toNat)
  · rw [if_pos beyond]
    exact .inl ⟨_, _, rfl, rfl⟩
  · rw [if_neg beyond]
    exact .inr ⟨Nat.le_of_not_lt short, Nat.le_of_not_lt beyond, _, rfl, rfl⟩

theorem run_readText (v : Visit) (memory : Memory) (p n : ℤ) : (∃ e, (readText memory p n).run.run v = (.error e, v)) ∨
    ∃ bytes, GuestAct.bytesAt? memory p n = some bytes ∧ bytes.length = n.toNat ∧
      (readText memory p n).run.run v = (.ok (Text.decodeLossy bytes), v) := by
  unfold readText
  split
  · exact .inl ⟨_, rfl⟩
  rename_i inside
  dsimp only
  split
  · exact .inl ⟨_, rfl⟩
  split
  · rename_i bytes read
    refine .inr ⟨bytes, ?_, Wasm.Memory.length_of_read? read, rfl⟩
    rw [GuestAct.bytesAt?, if_neg inside, read]
  · exact .inl ⟨_, rfl⟩

theorem run_chargeBuffer_readText {a : GuestAct} (k : String → Serve α) (v : Visit) (memory : Memory) (p n : ℤ) :
    (∃ e v', (chargeBuffer n >>= fun _ => readText memory p n >>= k).run.run v = (.error e, v') ∧
      Holding.Turn a v.holding false v'.holding) ∨
    ∃ bytes v', GuestAct.bytesAt? memory p n = some bytes ∧ bytes.length ≤ maxBuffer ∧ v.holding.Affords bytes.length ∧
      v'.holding = { v.holding with host := v.account.host + bytes.length } ∧
      (chargeBuffer n >>= fun _ => readText memory p n >>= k).run.run v = (k (Text.decodeLossy bytes)).run.run v' := by
  rw [Law.run_bind]
  rcases run_chargeBuffer v n with ⟨e, v', refused, same⟩ | ⟨short, affords, v', charged, holding⟩
  · rw [refused]
    exact .inl ⟨e, v', rfl, same ▸ .idle nofun⟩
  rw [charged]
  dsimp only
  rw [Law.run_bind]
  rcases run_readText v' memory p n with ⟨e, outside⟩ | ⟨bytes, handed, length, read⟩
  · rw [outside]
    exact .inl ⟨e, v', rfl, holding ▸ .wasted short affords⟩
  · rw [read]
    rw [← length] at short affords holding
    exact .inr ⟨bytes, v', handed, short, affords, holding, rfl⟩

end Serve

def Holding.Turned (a : GuestAct) (v : Visit) (ran : Except GuestStop α × Visit) : Prop :=
  Turn a v.holding ran.1.isOk ran.2.holding

namespace HostFunction
open Holding

theorem turned_serveLog {a : GuestAct} (isLine : a.emits = false) (handed : a.buffer? = GuestAct.bytesAt? memory p n) :
    Turned a v ((serveLog memory p n).run.run v) := by
  unfold serveLog
  rw [Law.run_get]
  split
  · exact .idle nofun
  rename_i few
  rcases Serve.run_chargeBuffer_readText (a := a) _ v memory p n with ⟨e, v', ran, turn⟩ | ⟨bytes, v', read, short, affords, holding, ran⟩
  · exact ran ▸ turn
  · rw [ran]
    show Turn a v.holding true { v'.holding with logs := v'.holding.logs ++ [Text.decodeLossy bytes] }
    rw [holding]
    exact .line isLine (handed.trans read) short (Nat.lt_of_not_le few) affords

theorem turned_serveSignal {a : GuestAct} (emits : a.emits = true) (handed : a.buffer? = GuestAct.bytesAt? memory p n) :
    Turned a v ((serveSignal memory p n).run.run v) := by
  unfold serveSignal
  rw [Law.run_get]
  split
  · exact .idle nofun
  rename_i few
  rcases Serve.run_chargeBuffer_readText (a := a) _ v memory p n with ⟨e, v', ran, turn⟩ | ⟨bytes, v', read, short, affords, holding, ran⟩
  · exact ran ▸ turn
  · rw [ran]
    split
    · rename_i s decoded
      show Turn a v.holding true { v'.holding with signals := v'.holding.signals ++ [s] }
      rw [holding]
      exact .signal emits (handed.trans read) short (Nat.lt_of_not_le few) affords decoded
    · show Turn a v.holding false v'.holding
      rw [holding]
      exact .wasted short affords

theorem turned_of_same {a : GuestAct} (nothing : a.buffer? = none) {ran : Except GuestStop α × Visit}
    (same : ran.2.holding = v.holding) : Turned a v ran := by
  rw [Turned, same]
  exact .idle fun _ => nothing

theorem turned_serveClock {a : GuestAct} (nothing : a.buffer? = none) : Turned a v (serveClock.run.run v) := by
  unfold serveClock
  rw [Law.run_get]
  split <;> exact turned_of_same nothing rfl

theorem turned_serveUnavailable {a : GuestAct} (nothing : a.buffer? = none) :
    Turned a v ((serveUnavailable memory p n).run.run v) := by
  unfold serveUnavailable
  rw [Law.run_bind]
  rcases Serve.run_readText v memory p n with ⟨e, ran⟩ | ⟨bytes, -, -, ran⟩ <;> rw [ran]
  · exact turned_of_same nothing rfl
  · exact turned_of_same nothing rfl

theorem turned_serve (f : HostFunction) (memory : Memory) (args : List Value) (v : Visit) :
    Turned (.call f memory args) v ((f.serve memory args).run.run v) := by
  unfold serve
  rw [Law.run_bind]
  rcases Serve.run_require f.capability v with ran | ⟨e, v', ran, same⟩ <;> rw [ran]
  · dsimp only
    split
    · exact turned_serveLog rfl rfl
    · exact turned_serveSignal rfl rfl
    · exact turned_serveClock rfl
    · exact turned_serveUnavailable rfl
    · exact turned_serveUnavailable rfl
    · exact .idle nofun
  · rw [Turned, same]
    exact .idle nofun

end HostFunction

theorem Serve.turned_grow {a : GuestAct} (nothing : a.buffer? = none) {desired : ℕ} (small : desired < 2 ^ 49) :
    Holding.Turned a v ((charge (·.grow desired)).run.run v) := by
  rw [run_charge, MemoryAccount.grow]
  by_cases beyond : v.account.limit < Limits.saturate (desired + v.account.host)
  · rw [if_pos beyond]
    exact .idle nofun
  · rw [if_neg beyond]
    exact .grown nothing small (Nat.le_of_not_lt beyond)

theorem GuestAct.turned (a : GuestAct) (v : Visit) : Holding.Turned a v (a.run.run.run v) := by
  cases a with
  | call f memory args =>
    have turn := HostFunction.turned_serve f memory args v
    rw [run, Law.run_bind]
    revert turn
    rcases (f.serve memory args).run.run v with ⟨e | results, v'⟩
    · exact id
    · exact id
  | grow pages bound =>
    refine Serve.turned_grow rfl ?_
    unfold Memory.pageSize
    omega

end

/-! ### A whole visit -/

namespace Holding
open GuestFault (maxBuffer maxLogs maxSignals)
variable {a : GuestAct} {h h' : Holding} {budget factor : ℕ} {goesOn : Bool}

/-- What holds throughout a visit whose buffers give texts of at most `factor` times their size: what is kept is charged for up to that
factor, and the charges are within the limit. No sum saturates, since buffers are short and few and a memory has an end. `wasted` is how
many buffers were charged for and not kept. -/
structure Sound (budget factor wasted : ℕ) (h : Holding) : Prop where
  limit : h.limit = budget
  retained : h.retained ≤ factor * h.host
  host : h.host ≤ maxBuffer * (h.kept + wasted)
  logs : h.logs.length ≤ maxLogs
  signals : h.signals.length ≤ maxSignals
  linear : h.linear < 2 ^ 49
  total : h.linear + h.host ≤ budget

theorem saturate_of_le {n : ℕ} (h : n ≤ 2 ^ 50) : Limits.saturate n = n := Nat.min_eq_left (h.trans (by decide))

namespace Sound
variable {n : ℕ}

theorem room (sound : h.Sound budget factor 0) (short : n ≤ maxBuffer) : h.host + n ≤ maxBuffer * (h.kept + 1) := by
  rw [Nat.mul_succ]
  exact Nat.add_le_add sound.host short

theorem small (sound : h.Sound budget factor 0) (short : n ≤ maxBuffer) : h.host + n ≤ 2 ^ 28 := by
  have few : h.kept ≤ maxLogs + maxSignals := Nat.add_le_add sound.logs sound.signals
  exact (sound.room short).trans ((Nat.mul_le_mul_left _ (Nat.succ_le_succ few)).trans (by decide))

theorem affords (sound : h.Sound budget factor 0) (short : n ≤ maxBuffer) (affords : h.Affords n) : h.linear + (h.host + n) ≤ budget := by
  have := sound.limit
  have small := sound.small short
  have := sound.linear
  rw [Affords, saturate_of_le (n := h.linear + h.host) (by omega), saturate_of_le (by omega)] at affords
  omega

theorem pays (sound : h.Sound budget factor 0) {size : ℕ} (fits : size ≤ factor * n) : h.retained + size ≤ factor * (h.host + n) := by
  rw [Nat.mul_add]
  exact Nat.add_le_add sound.retained fits

end Sound

/-- One act keeps a visit sound, if its buffer gives no larger text; a buffer may be wasted, but then the visit ends. -/
theorem Turn.sound (turn : Turn a h goesOn h') (sound : h.Sound budget factor 0)
    (size : ∀ bytes ∈ a.buffer?, (Text.decodeLossy bytes).utf8ByteSize ≤ factor * bytes.length) :
    h'.Sound budget factor (if goesOn then 0 else 1) := by
  cases turn with
  | idle nothing => exact { sound with host := sound.host.trans (Nat.mul_le_mul_left _ (Nat.le_add_right _ _)) }
  | wasted short affords =>
    exact { sound with
      retained := sound.pays (Nat.zero_le _)
      host := sound.room short
      total := sound.affords short affords }
  | @line bytes isLine handed short few affords =>
    refine ⟨sound.limit, ?_, ?_, ?_, sound.signals, sound.linear, sound.affords short affords⟩
    · rw [retained_addLine]
      exact sound.pays (size bytes handed)
    · rw [kept_addLine]
      exact sound.room short
    · exact (List.length_append ..).trans_le few
  | @signal bytes s emits handed short few affords read =>
    refine ⟨sound.limit, ?_, ?_, sound.logs, ?_, sound.linear, sound.affords short affords⟩
    · rw [retained_addSignal]
      exact sound.pays ((Signal.textBytes_le read).trans (size bytes handed))
    · rw [kept_addSignal]
      exact sound.room short
    · exact (List.length_append ..).trans_le few
  | @grown linear nothing small affords =>
    have little := sound.small (Nat.zero_le _)
    rw [saturate_of_le (by omega)] at affords
    exact { sound with linear := small, total := affords.trans_eq sound.limit }

/-- A line is charged for in full just when its text is no larger than its buffer, since the text is no smaller. -/
theorem Turn.excess (turn : Turn a h true h') (isLine : a.emits = false) :
    h.retained + h'.host ≤ h'.retained + h.host ∧ (h'.retained + h.host ≤ h.retained + h'.host → a.KeepsSize) := by
  have keeps (nothing : a.buffer? = none) : a.KeepsSize := fun bytes handed => by cases nothing.symm.trans handed
  cases turn with
  | idle nothing => exact ⟨Nat.le_refl _, fun _ => keeps (nothing rfl)⟩
  | @line bytes _ handed short few affords =>
    have larger := Text.length_le_utf8ByteSize_decodeLossy bytes
    have charged : (h.addLine (Text.decodeLossy bytes) bytes.length).host = h.host + bytes.length := rfl
    rw [retained_addLine, charged]
    refine ⟨by omega, fun covered other again => ?_⟩
    cases handed.symm.trans again
    omega
  | signal emits => cases isLine.symm.trans emits
  | grown nothing => exact ⟨Nat.le_refl _, fun _ => keeps nothing⟩

end Holding

namespace GuestAct
variable {acts : List GuestAct} {v : Visit} {budget factor : ℕ}

/-- A guest does one thing after another, up to the first that it is stopped at. -/
def runAll (acts : List GuestAct) : Serve Unit := forM acts run

theorem run_runAll_cons (a : GuestAct) (acts : List GuestAct) (v : Visit) : (runAll (a :: acts)).run.run v =
    match a.run.run.run v with
    | (.ok _, v) => (runAll acts).run.run v
    | (.error e, v) => (.error e, v) := by
  rw [runAll, List.forM_cons, Law.run_bind]
  rcases a.run.run.run v with ⟨e | _, v'⟩ <;> rfl

theorem sound_runAll (sound : v.holding.Sound budget factor 0)
    (size : ∀ a ∈ acts, ∀ bytes ∈ a.buffer?, (Text.decodeLossy bytes).utf8ByteSize ≤ factor * bytes.length) :
    ((runAll acts).run.run v).2.holding.Sound budget factor (if ((runAll acts).run.run v).1.isOk then 0 else 1) := by
  induction acts generalizing v with
  | nil => exact sound
  | cons a acts ih =>
    have turn := (a.turned v).sound sound (size a (List.mem_cons_self ..))
    rw [run_runAll_cons]
    revert turn
    rcases a.run.run.run v with ⟨e | _, v'⟩
    · exact id
    · exact fun turn => ih turn fun a ha => size a (List.mem_cons_of_mem _ ha)

/-- If all acts hand over lines, nothing makes up for a text that is larger than its buffer. -/
theorem excess_runAll (served : ((runAll acts).run.run v).1.isOk = true) (lines : ∀ a ∈ acts, a.emits = false) :
    v.holding.retained + ((runAll acts).run.run v).2.holding.host ≤ ((runAll acts).run.run v).2.holding.retained + v.holding.host ∧
      (((runAll acts).run.run v).2.holding.retained + v.holding.host ≤
        v.holding.retained + ((runAll acts).run.run v).2.holding.host → ∀ a ∈ acts, a.KeepsSize) := by
  induction acts generalizing v with
  | nil => exact ⟨Nat.le_refl _, fun _ => List.forall_mem_nil _⟩
  | cons a acts ih =>
    have turn := a.turned v
    rw [run_runAll_cons] at served ⊢
    revert turn served
    rcases a.run.run.run v with ⟨e | _, v'⟩
    · rintro ⟨⟩
    · intro served turn
      obtain ⟨first, keeps⟩ := Holding.Turn.excess turn (lines a (List.mem_cons_self ..))
      obtain ⟨rest, keepAll⟩ := ih served fun a ha => lines a (List.mem_cons_of_mem _ ha)
      dsimp only at first keeps ⊢
      refine ⟨by omega, fun covered => List.forall_mem_cons.2 ⟨keeps (by omega), keepAll (by omega)⟩⟩

end GuestAct

def Visit.retained (v : Visit) : ℕ := v.holding.retained

/-- Whatever a guest hands over in whatever order, what the host keeps is charged for up to a factor of three; and in full, and so
within the budget, if no buffer gives a text that is larger than itself. If it hands over lines only, then only if. -/
theorem Visit.retained_runAll (grant : Grant) (clock : List UInt64) (deadline : ℕ) (acts : List GuestAct) :
    let ran := (GuestAct.runAll acts).run.run (.start grant clock deadline)
    ran.2.retained ≤ 3 * ran.2.account.host ∧
      ((∀ a ∈ acts, a.KeepsSize) →
        ran.2.retained ≤ ran.2.account.host ∧ ran.2.account.linear + ran.2.retained ≤ grant.budgets.memoryBytes) ∧
      (ran.1.isOk = true → (∀ a ∈ acts, a.emits = false) → ran.2.retained ≤ ran.2.account.host → ∀ a ∈ acts, a.KeepsSize) := by
  intro ran
  have start (factor : ℕ) : (Visit.start grant clock deadline).holding.Sound grant.budgets.memoryBytes factor 0 :=
    ⟨rfl, Nat.zero_le _, Nat.zero_le _, Nat.zero_le _, Nat.zero_le _, Nat.two_pow_pos _, Nat.zero_le _⟩
  refine ⟨?_, fun keep => ?_, fun served lines covered => ?_⟩
  · exact (GuestAct.sound_runAll (start 3) fun _ _ bytes _ => Text.utf8ByteSize_decodeLossy_le bytes).retained
  · have sound := GuestAct.sound_runAll (start 1) fun a ha bytes handed => (keep a ha bytes handed).trans_eq (Nat.one_mul _).symm
    have covered : ran.2.retained ≤ ran.2.account.host := sound.retained.trans_eq (Nat.one_mul _)
    exact ⟨covered, (Nat.add_le_add_left covered _).trans sound.total⟩
  · refine (GuestAct.excess_runAll served lines).2 ?_
    exact covered.trans_eq (Nat.zero_add _).symm

/-- A page of memory and a line of one letter. -/
theorem Visit.retained_runAll_letter :
    let grant : Grant := ⟨[.log], ⟨10, 65537, 10⟩, "letter", 1, .low⟩
    let acts : List GuestAct := [.grow 1 (by decide), .call .log ⟨⟨#[0x61]⟩, 65536⟩ [.i32 0, .i32 1]]
    let ran := (GuestAct.runAll acts).run.run (.start grant [] 0)
    (∀ a ∈ acts, a.KeepsSize) ∧ ran.1.isOk = true ∧ (∀ a ∈ acts, a.emits = false) ∧
      ran.2.retained ≤ ran.2.account.host ∧ ran.2.account.linear + ran.2.retained ≤ 65537 ∧ ∀ a ∈ acts, a.KeepsSize := by
  intro grant acts ran
  obtain ⟨-, covered, keeps⟩ := Visit.retained_runAll grant [] 0 acts
  have keep : ∀ a ∈ acts, a.KeepsSize := by
    refine List.forall_mem_cons.2 ⟨nofun, List.forall_mem_singleton.2 (GuestAct.keepsSize_of_text ?_)⟩
    rintro bytes ⟨⟩
    exact ⟨"a", by decide +kernel⟩
  have served : ran.1.isOk = true := by decide +kernel
  have lines : ∀ a ∈ acts, a.emits = false := by decide
  exact ⟨keep, served, lines, (covered keep).1, (covered keep).2, keeps served lines (covered keep).1⟩

/-- A page of memory and a line of one byte that begins no character, which three bytes stand for. -/
theorem Visit.not_retained_le_host : ¬ ∀ (grant : Grant) (clock : List UInt64) (deadline : ℕ) (acts : List GuestAct),
    let v := ((GuestAct.runAll acts).run.run (.start grant clock deadline)).2
    v.retained ≤ v.account.host ∧ v.account.linear + v.retained ≤ grant.budgets.memoryBytes := by
  intro claim
  let grant : Grant := ⟨[.log], ⟨10, 65537, 10⟩, "lossy", 1, .low⟩
  let acts : List GuestAct := [.grow 1 (by decide), .call .log ⟨⟨#[0xff]⟩, 65536⟩ [.i32 0, .i32 1]]
  have larger : ¬ ((GuestAct.runAll acts).run.run (.start grant [] 0)).2.retained ≤
      ((GuestAct.runAll acts).run.run (.start grant [] 0)).2.account.host := by
    decide +kernel
  exact larger (claim grant [] 0 acts).1

/-! ### Guests -/

namespace Holding
variable {a : GuestAct} {h h' : Holding} {goesOn : Bool}

/-- What no guest can break, whatever its buffers and its memory are: what is kept is charged for up to a factor of three, and the
charges are within the limit as far as they can be added up. -/
structure Covered (budget : ℕ) (h : Holding) : Prop where
  limit : h.limit = budget
  retained : h.retained ≤ 3 * h.host
  total : Limits.saturate (h.linear + h.host) ≤ budget

theorem Covered.charged {budget : ℕ} (covered : h.Covered budget) {n : ℕ} (affords : h.Affords n) :
    Limits.saturate (h.linear + (h.host + n)) ≤ budget := by
  have same : Limits.saturate (h.linear + (h.host + n)) = Limits.saturate (Limits.saturate (h.linear + h.host) + n) := by
    unfold Limits.saturate
    omega
  rw [same, ← covered.limit]
  exact affords

theorem Turn.covered {budget : ℕ} (turn : Turn a h goesOn h') (covered : h.Covered budget) : h'.Covered budget := by
  have pays (bytes : List UInt8) {size : ℕ} (fits : size ≤ (Text.decodeLossy bytes).utf8ByteSize) :
      h.retained + size ≤ 3 * (h.host + bytes.length) := by
    have := covered.retained
    have := Text.utf8ByteSize_decodeLossy_le bytes
    omega
  cases turn with
  | idle => exact covered
  | wasted short affords =>
    exact ⟨covered.limit, covered.retained.trans (Nat.mul_le_mul_left _ (Nat.le_add_right _ _)), covered.charged affords⟩
  | @line bytes _ _ _ _ affords =>
    refine ⟨covered.limit, ?_, covered.charged affords⟩
    rw [retained_addLine]
    exact pays bytes (Nat.le_refl _)
  | @signal bytes s _ _ _ _ affords read =>
    refine ⟨covered.limit, ?_, covered.charged affords⟩
    rw [retained_addSignal]
    exact pays bytes (Signal.textBytes_le read)
  | grown _ _ affords => exact ⟨covered.limit, covered.retained, affords.trans_eq covered.limit⟩

end Holding

def Visit.coverage (budget : ℕ) : Law Visit GuestStop where
  inv v := v.holding.Covered budget
  allows _ _ _ := True
  refl _ := trivial
  trans _ _ := trivial

theorem Visit.permits_coverage (budget : ℕ) : Permits (coverage budget) where
  serve f memory args v covered := ⟨(HostFunction.turned_serve f memory args v).covered covered, trivial, fun _ _ => trivial⟩
  grow desired v covered := by
    refine ⟨?_, trivial, fun _ _ => trivial⟩
    rw [Serve.run_charge, MemoryAccount.grow]
    by_cases beyond : v.account.limit < Limits.saturate (desired + v.account.host)
    · rw [if_pos beyond]
      exact covered
    · rw [if_neg beyond]
      exact ⟨covered.limit, covered.retained, (Nat.le_of_not_lt beyond).trans_eq covered.limit⟩
  stop _ _ _ _ := trivial
  inv_left _ _ covered := covered
  allows_left _ _ _ _ _ := trivial

/-- Whatever the program of a guest is, what the host keeps for it is covered when it ends, and whether it is stopped or not. -/
theorem Guest.covered_run (guest : Guest) (fuel : ℕ) (payload : List UInt8) (grant : Grant) (clock : List UInt64) (deadline : ℕ) :
    ((guest.run fuel payload).run.run (.start grant clock deadline)).2.holding.Covered grant.budgets.memoryBytes := by
  have start : (Visit.start grant clock deadline).holding.Covered grant.budgets.memoryBytes :=
    ⟨rfl, Nat.zero_le _, Nat.zero_le _⟩
  exact (governs_run (Visit.permits_coverage _) guest fuel payload _ start).inv

end StrategyHost
