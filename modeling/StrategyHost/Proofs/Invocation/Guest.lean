import StrategyHost.Proofs.Invocation.Session
import StrategyHost.Runnable

/-! # What a guest may do

`Visit.law` is the law of a visit: under its grant a guest gets lines and signals to its host only if it may, and what stops it is
noted, a refusal with one event and a breach in the account. Every program keeps to a law that the host functions and the growth of
a memory keep to (`Guest.governs_run`), since it reaches its host in no other way. An invocation of a guest keeps to the law of
sessions (`Guest.governs_invoke`). -/

namespace StrategyHost

namespace GuestStop

def denial? : GuestStop → Option Denial
  | .denied d => some d
  | _ => none

def breach? : GuestStop → Option Breach
  | .breach b => some b
  | _ => none

end GuestStop

namespace Visit

structure Obeys (v : Visit) (g : Grant) : Prop where
  grant : v.grant = g
  logs : v.logs ≠ [] → g.allows .log = true
  signals : v.signals ≠ [] → g.allows .emitSignal = true

/-- What a step that may be stopped notes: a refusal and its event, and a breach. -/
structure Notes (g : Grant) (v : Visit) (stop? : Option GuestStop) (v' : Visit) : Prop where
  events : v'.events = v.events ++ g.refusals (stop?.bind GuestStop.denial?)
  denied : v'.denied? = (stop?.bind GuestStop.denial?).or v.denied?
  breach : v'.account.breach = (stop?.bind GuestStop.breach?).or v.account.breach

theorem Notes.same {g : Grant} {v v' : Visit} (events : v'.events = v.events) (denied : v'.denied? = v.denied?)
    (breach : v'.account.breach = v.account.breach) : Notes g v none v' :=
  ⟨by simp [events, Grant.refusals], by simp [denied], by simp [breach]⟩

def law (g : Grant) : Law Visit GuestStop where
  inv v := v.Obeys g
  allows := Notes g
  refl _ := .same rfl rfl rfl
  trans first next := {
    events := by simp [next.events, first.events, Grant.refusals]
    denied := by simp [next.denied, first.denied]
    breach := by simp [next.breach, first.breach] }

end Visit

namespace MemoryAccount

/-- Whether an operation notes its refusals, and nothing else. -/
def NotesBreaches (op : MemoryAccount → Except Breach Unit × MemoryAccount) : Prop :=
  ∀ a, (op a).2.breach = (failure? (op a).1).or a.breach

theorem notesBreaches_reserve (bytes : Nat) : NotesBreaches (·.reserve bytes) := by
  intro a
  unfold reserve
  dsimp only
  split <;> rfl

theorem notesBreaches_grow (desired : Nat) : NotesBreaches (·.grow desired) := by
  intro a
  unfold grow
  dsimp only
  split <;> rfl

end MemoryAccount

namespace Serve
variable {α : Type} {g : Grant} {q : α → Prop}
open Law

theorem governs_stop {stop : GuestStop} (denial : stop.denial? = none) (breach : stop.breach? = none) :
    (Visit.law g).Governs (throw stop : Serve α) q :=
  .throw fun v => ⟨by simp [denial, Grant.refusals], by simp [denial], by simp [breach]⟩

theorem governs_fault (f : GuestFault) : (Visit.law g).Governs (fault f : Serve α) q := governs_stop rfl rfl

theorem governs_trap (t : Wasm.Trap) : (Visit.law g).Governs (throw (.trap t) : Serve α) q := governs_stop rfl rfl

theorem governs_require (c : Capability) : (Visit.law g).Governs (require c) fun _ => g.allows c = true := by
  rintro v ⟨rfl, logs, signals⟩
  by_cases granted : v.grant.allows c = true
  · have checked : v.grant.check c = .ok () := if_pos granted
    rw [require, run_get, checked]
    exact .ok ⟨rfl, logs, signals⟩ granted
  · have checked : v.grant.check c = .error (⟨c, v.grant.identity⟩, v.grant.denialEvent c) := if_neg granted
    rw [require, run_get, checked]
    exact .error ⟨rfl, logs, signals⟩ ⟨rfl, rfl, rfl⟩

theorem governs_charge {op : MemoryAccount → Except Breach Unit × MemoryAccount} (notes : MemoryAccount.NotesBreaches op) :
    (Visit.law g).Governs (charge op) fun _ => True := by
  rintro v ⟨rfl, logs, signals⟩
  have noted := notes v.account
  rw [charge, run_get]
  revert noted
  rcases op v.account with ⟨b | _, account⟩
  · exact fun noted => .error ⟨rfl, logs, signals⟩ ⟨by simp [GuestStop.denial?, Grant.refusals], rfl, noted⟩
  · exact fun noted => ⟨⟨rfl, logs, signals⟩, .same rfl rfl noted, fun _ _ => trivial⟩

theorem governs_chargeBuffer (length : Int) : (Visit.law g).Governs (chargeBuffer length) fun _ => True := by
  unfold chargeBuffer
  exact .guard (governs_fault _) fun _ => .guard (governs_fault _) fun _ =>
    governs_charge (MemoryAccount.notesBreaches_reserve _)

theorem governs_readText (memory : Wasm.Memory) (pointer length : Int) :
    (Visit.law g).Governs (readText memory pointer length) fun _ => True := by
  unfold readText
  refine .guard (governs_fault _) fun _ => .guard (governs_fault _) fun _ => ?_
  split
  · exact .pure trivial
  · exact governs_fault _

end Serve

namespace HostFunction
variable {g : Grant}
open Law Serve

theorem governs_serveLog (granted : g.allows .log = true) (memory : Wasm.Memory) (pointer length : Int) :
    (Visit.law g).Governs (serveLog memory pointer length) fun _ => True :=
  .bind .get fun _ _ => .guard (governs_fault _) fun _ => .bind (governs_chargeBuffer length) fun _ _ =>
    .bind (governs_readText memory pointer length) fun _ _ =>
      .bind (.change (fun _ h => ⟨h.grant, fun _ => granted, h.signals⟩) fun _ => .same rfl rfl rfl) fun _ _ => .pure trivial

theorem governs_serveSignal (granted : g.allows .emitSignal = true) (memory : Wasm.Memory) (pointer length : Int) :
    (Visit.law g).Governs (serveSignal memory pointer length) fun _ => True :=
  .bind .get fun _ _ => .guard (governs_fault _) fun _ => .bind (governs_chargeBuffer length) fun _ _ =>
    .bind (governs_readText memory pointer length) fun text _ => by
      split
      · exact .bind (.change (fun _ h => ⟨h.grant, h.logs, fun _ => granted⟩) fun _ => .same rfl rfl rfl) fun _ _ =>
          .pure trivial
      · exact governs_fault _

theorem governs_serveClock : (Visit.law g).Governs serveClock fun _ => True :=
  .bind .get fun v _ => by
    split
    · exact .pure trivial
    · exact .bind (.change (fun _ h => ⟨h.grant, h.logs, h.signals⟩) fun _ => .same rfl rfl rfl) fun _ _ => .pure trivial

theorem governs_serveUnavailable (memory : Wasm.Memory) (pointer length : Int) :
    (Visit.law g).Governs (serveUnavailable memory pointer length) fun _ => True :=
  .bind (governs_readText memory pointer length) fun _ _ => .pure trivial

/-- Whatever a guest asks for, it gets lines and signals across only by way of the permission for them. -/
theorem governs_serve (f : HostFunction) (memory : Wasm.Memory) (args : List Wasm.Value) :
    (Visit.law g).Governs (f.serve memory args) fun _ => True := by
  refine .bind (governs_require f.capability) fun _ granted => ?_
  split
  · exact governs_serveLog granted _ _ _
  · exact governs_serveSignal granted _ _ _
  · exact governs_serveClock
  · exact governs_serveUnavailable _ _ _
  · exact governs_serveUnavailable _ _ _
  · exact governs_trap _

end HostFunction

/-! ### Guests -/

/-- A law that guests cannot break, as long as their host functions and the growth of their memory keep to it: nothing happens to a
visit where a guest stops by itself, and the instructions that are left make no difference. -/
structure Visit.Permits (L : Law Visit GuestStop) : Prop where
  serve : ∀ (f : HostFunction) (memory : Wasm.Memory) (args : List Wasm.Value), L.Governs (f.serve memory args) fun _ => True
  grow : ∀ desired : Nat, L.Governs (Serve.charge (·.grow desired)) fun _ => True
  stop : ∀ (stop : GuestStop) (v : Visit), stop.denial? = none → stop.breach? = none → L.allows v (some stop) v
  inv_left : ∀ (v : Visit) (n : Nat), L.inv v → L.inv { v with left := n }
  allows_left : ∀ (v v' : Visit) (stop? : Option GuestStop) (n : Nat), L.allows v stop? v' → L.allows v stop? { v' with left := n }

theorem Visit.permits_law (g : Grant) : Permits (law g) where
  serve := HostFunction.governs_serve
  grow desired := Serve.governs_charge (MemoryAccount.notesBreaches_grow desired)
  stop _ _ denial breach := ⟨by simp [denial, Grant.refusals], by simp [denial], by simp [breach]⟩
  inv_left _ _ h := ⟨h.grant, h.logs, h.signals⟩
  allows_left _ _ _ _ h := ⟨h.events, h.denied, h.breach⟩

namespace Guest
open Law Serve

section
variable {L : Law Visit GuestStop} {α : Type} {q : α → Prop} (permits : Visit.Permits L)
include permits

theorem governs_fault (f : GuestFault) : L.Governs (fault f : Serve α) q := .throw fun v => permits.stop _ v rfl rfl

theorem governs_trap (t : Wasm.Trap) : L.Governs (throw (.trap t) : Serve α) q := .throw fun v => permits.stop _ v rfl rfl

theorem governs_answer (imports : List HostFunction) (r : Wasm.Request) (m : Wasm.Machine) :
    L.Governs (answer imports r m) fun _ => True := by
  cases r with
  | call i args =>
    rw [answer]
    split
    next f known => exact .bind (permits.serve f m.memory args) fun _ _ => .pure trivial
    · exact governs_trap permits _
  | growMemory pages => exact .bind (permits.grow _) fun _ _ => .pure trivial
  | growTable table size init => exact .pure trivial

theorem holds_left {ran : Except GuestStop α} {v v' : Visit} (n : Nat) (h : L.Holds v q (ran, v')) :
    L.Holds v q (ran, { v' with left := n }) :=
  ⟨permits.inv_left v' n h.inv, permits.allows_left v v' _ n h.allows, h.result⟩

theorem holds_drive (imports : List HostFunction) (n : Nat) (v : Visit) (move : Wasm.Move) (obeys : L.inv v) :
    L.Holds v (fun _ => True) (drive imports n v move) := by
  have stops (v : Visit) (obeys : L.inv v) (t : Wasm.Trap) (n : Nat) :
      L.Holds v (fun _ => True) ((.error (.trap t) : Except GuestStop Finish), { v with left := n }) :=
    holds_left permits n (governs_trap permits t v obeys)
  have finishes (v : Visit) (obeys : L.inv v) (done : Finish) (n : Nat) :
      L.Holds v (fun _ => True) ((.ok done : Except GuestStop Finish), { v with left := n }) :=
    holds_left permits n (.ok obeys trivial)
  -- on the instructions that are left: only the answer to a request touches the visit
  induction n generalizing v move with
  | zero =>
    cases move with
    | finished results m => exact finishes v obeys _ _
    | trapped t => exact stops v obeys t _
    | next m => exact stops v obeys .interrupted _
    | ask r m => exact stops v obeys .interrupted _
  | succ n ih =>
    cases move with
    | finished results m => exact finishes v obeys _ _
    | trapped t => exact stops v obeys t _
    | next m => exact ih v m.step obeys
    | ask r m =>
      have answered : L.Holds v (fun _ => True) ((answer imports r m).run v) := governs_answer permits imports r m v obeys
      rw [drive]
      revert answered
      rcases (answer imports r m).run v with ⟨stop | m, v'⟩
      · exact fun stopped => holds_left permits n (.error stopped.inv stopped.allows)
      · exact fun answered => .trans answered.allows (ih v' m.step answered.inv)

theorem governs_call (guest : Guest) (m : Wasm.Machine) (f : Nat) (args : List Wasm.Value) :
    L.Governs (guest.call m f args) fun _ => True :=
  fun v obeys => holds_drive permits guest.imports v.left v (m.start f args) obeys

theorem governs_reserveRoom (m : Wasm.Module) : L.Governs (reserveRoom m) fun _ => True := by
  unfold reserveRoom
  refine .guard (governs_fault permits _) fun _ => .guard (governs_fault permits _) fun _ => ?_
  refine .bind (.forIn fun t _ _ => ?_) fun _ _ => .bind (.forIn fun memory _ _ => ?_) fun _ _ => .pure trivial
  · exact .guard (governs_fault permits _) fun _ => .pure trivial
  · exact .bind (permits.grow _) fun _ _ => .pure trivial

theorem governs_instantiate (guest : Guest) (fuel : Nat) : L.Governs (guest.instantiate fuel) fun _ => True := by
  refine .bind (governs_reserveRoom permits guest.module) fun _ _ => ?_
  split
  · exact governs_trap permits _
  · split
    · exact .pure trivial
    · exact .bind (governs_call permits guest _ _ _) fun _ _ => .pure trivial

theorem governs_number (done : Finish) : L.Governs (number done) fun _ => True := by
  unfold number
  split
  · exact .pure trivial
  · exact governs_trap permits _

/-- A guest keeps to the law from its start function to the status that it gives. -/
theorem governs_run (guest : Guest) (fuel : Nat) (payload : List UInt8) : L.Governs (guest.run fuel payload) fun _ => True := by
  refine .bind (governs_instantiate permits guest fuel) fun m _ => .bind (governs_call permits guest m _ _) fun allocated _ =>
    .bind (governs_number permits allocated) fun pointer _ => .guard (governs_fault permits _) fun _ => ?_
  split
  · exact governs_fault permits _
  · exact .bind (governs_call permits guest _ _ _) fun done _ => .bind (governs_number permits done) fun _ _ => .pure trivial

end

variable {g : Grant}

/-! ### An invocation of a guest -/

theorem classify_eq_failure {v v' : Visit} {stop : GuestStop} (budgets : Budgets) (elapsed : Nat)
    (fresh : v.denied? = none) (unspent : v.account.breach = none) (notes : Visit.Notes g v (some stop) v') :
    classify budgets elapsed v' stop = failure budgets elapsed stop := by
  rw [classify, notes.denied, notes.breach, fresh, unspent]
  cases stop <;> rfl

theorem denial?_failure (budgets : Budgets) (elapsed : Nat) (stop : GuestStop) :
    (failure budgets elapsed stop).denial? = stop.denial? := by
  cases stop with
  | trap t => cases t <;> rfl
  | _ => rfl

theorem governs_conclude {v visit : Visit} {result : Except GuestStop Int} (budgets : Budgets) (spentMs : Nat)
    (fresh : v.denied? = none) (unspent : v.account.breach = none) (silent : v.events = [])
    (h : (Visit.law g).Holds v (fun _ => True) (result, visit)) :
    (Session.law g).Governs (conclude budgets spentMs result visit) g.Covers := by
  have events : visit.events = g.refusals ((failure? result).bind GuestStop.denial?) := by simpa [silent] using h.allows.events
  cases result with
  | error stop =>
    rintro s ⟨grant, logs⟩
    -- the session takes over the event of the refusal before it fails with it, so this is one step of the law, not two
    have named (elapsed : Nat) : (classify budgets elapsed visit stop).denial? = stop.denial? := by
      rw [classify_eq_failure budgets elapsed fresh unspent h.allows, denial?_failure]
    exact .error ⟨grant, logs⟩ (by simp [Session.law, Halt.denial?, named, events, failure?])
  | ok status =>
    refine .bind (.change (fun _ obeys => ⟨obeys.grant, obeys.logs⟩) fun s => ?_) fun _ _ => .bind Run.governs_look fun _ _ =>
      .guard (Run.governs_fail rfl) fun _ => .bind .get fun s obeys =>
        .bind (.change (fun _ h => ⟨h.grant, fun some => absurd rfl some⟩) fun _ => ?_) fun _ _ => .pure ⟨fun lines => ?_, h.inv.signals⟩
    · simp [Session.law, events, failure?, Grant.refusals]
    · simp [Session.law, Grant.refusals]
    · by_cases own : s.logs = []
      · exact h.inv.logs (by simpa [own] using lines)
      · exact obeys.logs own

/-- A guest keeps to its grant, whatever its program, the data and the pace are. -/
theorem governs_invoke (guest : Guest) (limits : Limits) (data : MarketData) :
    (Session.law g).Governs (guest.invoke limits data) g.Covers := by
  refine .bind Run.governs_checkpoint fun _ _ => .bind .get fun s obeys => .guard (Run.governs_fail rfl) fun _ => ?_
  exact governs_conclude _ _ rfl rfl rfl (governs_run (Visit.permits_law g) guest _ _ _ ⟨obeys.grant, nofun, nofun⟩)

end Guest

/-- Whatever a handle runs, it keeps to its grant. -/
theorem Runnable.governs_invoke {g : Grant} (r : Runnable) (limits : Limits) (data : MarketData) :
    (Session.law g).Governs (r.invoke limits data) g.Covers := by
  cases r with
  | native s => exact s.governs_invoke data
  | guest _ guest => exact guest.governs_invoke limits data

end StrategyHost
