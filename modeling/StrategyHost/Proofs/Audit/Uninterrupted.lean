import Mathlib.Logic.Relation
import StrategyHost.Proofs.Audit.Accounts
import StrategyHost.Proofs.Audit.Queue

/-! # Work that nobody interrupts

A logger's own functions take a call, or a piece of the writer's work, from its beginning to its end. Each of them does what the moves
do when nobody else makes one in between: `leads_record`, `leads_settle`, `leads_flush` and `leads_shutdown`. So what holds on every
run of moves holds of them. A logger that is given records one by one counts each of them once (`recordAll_accounts`), and loses none
while the trail takes them (`Free.recordAll`). -/

namespace StrategyHost.Audit.Logger
variable {l : Logger} {w w' : Writing} {begun sent : List Record} {r : Record}

def Leads : Busy → Busy → Prop := Relation.ReflTransGen Move

namespace Leads
variable {b b' b'' : Busy}

theorem refl (b : Busy) : Leads b b := Relation.ReflTransGen.refl

theorem trans (h : Leads b b') (h' : Leads b' b'') : Leads b b'' := Relation.ReflTransGen.trans h h'

theorem single (m : Move b b') : Leads b b' := Relation.ReflTransGen.single m

theorem move (h : Leads b b') (m : Move b' b'') : Leads b b'' := Relation.ReflTransGen.tail h m

theorem ran {config : Config} {trail : Trail} (h : Leads b b') (ran : Ran config trail b) : Ran config trail b' := by
  induction h with
  | refl => exact ran
  | tail _ m ih => exact ih.move m

end Leads

namespace Busy

/-- A logger at which nobody is busy, and nobody was while another was. -/
def resting (l : Logger) (w : Writing) (begun sent : List Record) : Busy :=
  { logger := l, calls := [], writing := w, task := .none, begun, sent, missed := 0, doubled := 0, overlapped := false }

def calling (l : Logger) (w : Writing) (begun sent : List Record) (c : Call) : Busy := { resting l w begun sent with calls := [c] }

end Busy

open Busy (resting calling)

/-! ### Calls -/

theorem leads_enqueue (l : Logger) (begun sent : List Record) (r : Record) (keeps : w.isEmptying = false) (n : Nat) :
    ∃ sent', Leads (calling l w begun sent ⟨r, .trying n⟩) (resting (l.enqueue r n) w begun sent') := by
  have none : 0 + w.isEmptying.toNat = 0 := by rw [keeps]; rfl
  induction n generalizing l sent with
  | zero => exact ⟨sent, .single (@Move.countNewest _ [] r [] rfl)⟩
  | succ n ih =>
    rw [Logger.enqueue, offer]
    by_cases room : l.queue.length < l.capacity
    · have put : Move (calling l w begun sent ⟨r, .trying (n + 1)⟩)
          { resting { l with queue := l.queue ++ [r] } w begun (sent ++ [r]) with missed := 0 + w.isEmptying.toNat } :=
        @Move.put _ [] r n [] rfl room
      rw [none] at put
      rw [if_pos room]
      exact ⟨sent ++ [r], .single put⟩
    · have full : Leads (calling l w begun sent ⟨r, .trying (n + 1)⟩) (calling l w begun sent ⟨r, .full n⟩) :=
        .single (@Move.findFull _ [] r n [] rfl (Nat.le_of_not_lt room))
      rw [if_neg room]
      cases hq : l.queue with
      | nil =>
        obtain ⟨sent', rest⟩ := ih l sent
        exact ⟨sent', (full.move (@Move.findEmpty _ [] r n [] rfl hq)).trans rest⟩
      | cons oldest queue =>
        have removed : Move (calling l w begun sent ⟨r, .full n⟩)
            { calling { l with queue } w begun sent ⟨r, .removed n⟩ with doubled := 0 + w.isEmptying.toNat } :=
          @Move.remove _ [] r n [] oldest queue rfl hq
        rw [none] at removed
        have counted : Move (calling { l with queue } w begun sent ⟨r, .removed n⟩)
            (calling { l with queue, dropped := l.dropped + 1 } w begun sent ⟨r, .trying n⟩) :=
          @Move.countOldest _ [] r n [] rfl
        obtain ⟨sent', rest⟩ := ih { l with queue, dropped := l.dropped + 1 } sent
        exact ⟨sent', ((full.move removed).move counted).trans rest⟩

theorem record_eq_enqueue (l : Logger) (r : Record) : l.record r = l.enqueue r (if l.closed then 0 else l.attempts) := by
  unfold Logger.record
  split <;> rfl

/-- A call from its beginning to its end. -/
theorem leads_record (l : Logger) (begun sent : List Record) (r : Record) (keeps : w.isEmptying = false) :
    ∃ sent', Leads (resting l w begun sent) (resting (l.record r) w (begun ++ [r]) sent') := by
  have entered : Leads (resting l w begun sent) (calling l w (begun ++ [r]) sent ⟨r, .entered⟩) := .single (.enter r)
  have looked : Move (calling l w (begun ++ [r]) sent ⟨r, .entered⟩)
      (calling l w (begun ++ [r]) sent ⟨r, .trying (if l.closed then 0 else l.attempts)⟩) := @Move.look _ [] r [] rfl
  obtain ⟨sent', rest⟩ := leads_enqueue l (begun ++ [r]) sent r keeps (if l.closed then 0 else l.attempts)
  rw [record_eq_enqueue]
  exact ⟨sent', (entered.move looked).trans rest⟩

/-! ### The writer -/

theorem leads_retryHead {b : Busy} (tried : b.tried = some w') (waits : b.logger.head.isSome) :
    Leads b { b with logger := b.logger.retryHead, writing := w', task := .none } := by
  obtain ⟨s, hs⟩ := Option.isSome_iff_exists.1 waits
  by_cases accepts : b.logger.trail.failing = 0
  · have appended := (Leads.single (.append tried hs accepts)).move (.count rfl)
    simpa only [Logger.retryHead, hs, accepts, ↓reduceIte] using appended
  · have refused := Leads.single (.refuse tried waits accepts)
    simpa only [Logger.retryHead, hs, accepts, ↓reduceIte] using refused

theorem leads_take (takes : (resting l w begun sent).takes = true) :
    Leads (resting l w begun sent) (resting l.take w begun sent) := by
  unfold Logger.take
  split
  · rename_i r rest hhead hqueue
    exact (Leads.single (.take takes hhead hqueue)).trans (leads_retryHead rfl rfl)
  · exact .refl _

theorem leads_drain (n : Nat) (l : Logger) (takes : ∀ l, (resting l w begun sent).takes = true) :
    Leads (resting l w begun sent) (resting (l.drain n) w begun sent) := by
  induction n generalizing l with
  | zero => exact .refl _
  | succ n ih =>
    rw [Logger.drain]
    split
    · exact (leads_take (takes l)).trans (ih _)
    · exact .refl _

/-- What the writer does as long as the trail takes records. -/
theorem leads_settle (l : Logger) (takes : ∀ l, (resting l w begun sent).takes = true) :
    Leads (resting l w begun sent) (resting l.settle w begun sent) := leads_drain _ l takes

theorem leads_insist (l : Logger) (begun sent : List Record) :
    Leads (resting l .serving begun sent) (resting l.insist .serving begun sent) := by
  unfold Logger.insist
  split
  · rename_i waits
    exact (Leads.single (.failNext 0)).trans (leads_retryHead rfl waits)
  · exact .refl _

/-- What a flush waits for. -/
theorem leads_flush (l : Logger) (begun sent : List Record) :
    Leads (resting l .serving begun sent) (resting l.flush .serving begun sent) := by
  unfold Logger.flush
  split
  · exact .refl _
  · have settle (l : Logger) : Leads (resting l .serving begun sent) (resting l.settle .serving begun sent) :=
      leads_settle l fun _ => rfl
    exact (((leads_insist l begun sent).trans (settle _)).trans (leads_insist _ begun sent)).trans (settle _)

/-! ### The end -/

theorem length_queue_take (free : l.head = none) : l.take.queue.length = l.queue.length - 1 := by
  unfold Logger.take Logger.retryHead
  cases hq : l.queue with
  | nil => simp [free, hq]
  | cons r rest =>
    simp only [free]
    split <;> simp

theorem queue_drain (n : Nat) (enough : l.queue.length ≤ n) (free : (l.drain n).head = none) : (l.drain n).queue = [] := by
  induction n generalizing l with
  | zero => exact List.eq_nil_of_length_eq_zero (Nat.le_zero.1 enough)
  | succ n ih =>
    rw [Logger.drain] at free ⊢
    by_cases waits : l.head.isNone
    · rw [if_pos waits] at free ⊢
      refine ih ?_ free
      rw [length_queue_take (Option.isNone_iff_eq_none.1 waits)]
      omega
    · rw [if_neg waits] at free
      exact absurd (free ▸ rfl) waits

theorem leads_discard (pending : Nat) (l : Logger) (begun sent : List Record) :
    Leads (resting l (.emptying pending) begun sent) (resting { l with queue := [] } (.emptying pending) begun sent) := by
  obtain ⟨queue, hq⟩ : ∃ queue, l.queue = queue := ⟨_, rfl⟩
  induction queue generalizing l with
  | nil => exact hq ▸ .refl _
  | cons r rest ih => exact (Leads.single (.discard rfl hq)).trans (ih { l with queue := rest } rfl)

theorem leads_abandon (l : Logger) (begun sent : List Record) (drained : l.head = none → l.queue = []) :
    Leads (resting l (.stopping 0) begun sent) (resting l.abandon .stopped begun sent) := by
  unfold Logger.abandon
  split
  · rename_i free
    exact .single (.leave rfl rfl free (drained free))
  · rename_i s waits
    have waits : l.head.isSome := by rw [waits]; rfl
    have givenUp := Leads.single (.giveUp (b := resting l (.stopping 0) begun sent) rfl rfl waits)
    have emptied := givenUp.trans (leads_discard _ _ begun sent)
    have lost := (emptied.move (.findNone rfl rfl)).move (.lose rfl)
    rw [Nat.add_assoc]
    exact lost

theorem leads_finish (n : Nat) (l : Logger) (begun sent : List Record) (drained : l.head = none → l.queue = []) :
    Leads (resting l (.stopping n) begun sent) (resting (l.finish n) .stopped begun sent) := by
  induction n generalizing l with
  | zero => exact leads_abandon l begun sent drained
  | succ n ih =>
    rw [Logger.finish]
    split
    · rename_i waits
      have retried : Leads (resting l (.stopping (n + 1)) begun sent) (resting l.retryHead (.stopping n) begun sent) :=
        leads_retryHead rfl waits
      have settled := retried.trans (leads_settle _ fun _ => rfl)
      exact settled.trans (ih _ (queue_drain _ (Nat.le_refl _)))
    · rename_i free
      have free : l.head = none := by simpa using free
      exact .single (.leave rfl rfl free (drained free))

/-- What a shutdown waits for. -/
theorem leads_shutdown (opened : l.closed = false) (begun sent : List Record) :
    Leads (resting l .serving begun sent) (resting l.shutdown .stopped begun sent) := by
  unfold Logger.shutdown
  rw [opened, if_neg Bool.false_ne_true]
  have stopped := (Leads.single (.close (b := resting l .serving begun sent))).move (.stop rfl rfl rfl)
  have settled := stopped.trans (leads_settle _ fun _ => rfl)
  exact settled.trans (leads_finish _ _ begun sent (queue_drain _ (Nat.le_refl _)))

/-! ### Records one by one -/

theorem leads_recordAll (now : Instant) (events : List Event) (l : Logger) (begun sent : List Record) :
    ∃ sent', Leads (resting l .serving begun sent)
      (resting (l.recordAll now events) .serving (begun ++ events.map (·.recordAt now)) sent') := by
  induction events generalizing l begun sent with
  | nil => exact ⟨sent, (List.append_nil begun).symm ▸ .refl _⟩
  | cons e events ih =>
    obtain ⟨sent₁, recorded⟩ := leads_record (w := .serving) l begun sent (e.recordAt now) rfl
    have settled := recorded.trans (leads_settle _ fun _ => rfl)
    obtain ⟨sent₂, rest⟩ := ih (l.record (e.recordAt now)).settle (begun ++ [e.recordAt now]) sent₁
    rw [List.append_assoc] at rest
    exact ⟨sent₂, settled.trans rest⟩

/-- A logger that is given records one by one, with the writer at work in between, counts each of them once. -/
theorem recordAll_accounts (config : Config) (trail : Trail) (now : Instant) (events : List Event) :
    let l := (start config trail).recordAll now events
    events.length = l.written + l.dropped + l.lost + l.queue.length + (if l.head.isSome then 1 else 0) := by
  intro l
  obtain ⟨sent, leads⟩ := leads_recordAll now events (start config trail) [] []
  have counts := (leads.ran .start).counts.atRest ⟨rfl, nofun, rfl, rfl⟩
  exact (List.length_map _).symm.trans counts

/-- A logger that has written all that it was given, on a trail that takes records. -/
structure Free (config : Config) (l : Logger) : Prop where
  configured : l.Configured config
  opened : l.closed = false
  head : l.head = none
  queue : l.queue = []
  takes : l.trail.failing = 0
  dropped : l.dropped = 0
  lost : l.lost = 0

theorem free_start (config : Config) {trail : Trail} (takes : trail.failing = 0) : Free config (start config trail) :=
  ⟨configured_start config trail, rfl, rfl, rfl, takes, rfl, rfl⟩

theorem Free.settle_record {config : Config} (h : Free config l) (r : Record) : Free config (l.record r).settle := by
  have room : l.queue.length < l.capacity := by
    rw [h.queue, h.configured.capacity]
    exact Nat.lt_of_lt_of_le Nat.zero_lt_one (Nat.le_max_right _ _)
  rw [h.configured.record_of_room h.opened room, h.queue]
  simp only [settle, List.nil_append, List.length_singleton, drain, h.head, Option.isNone_none, ↓reduceIte, take, retryHead, h.takes]
  exact ⟨h.configured.of_shorter rfl rfl (Nat.zero_le _), h.opened, rfl, rfl, rfl, h.dropped, h.lost⟩

theorem Free.recordAll {config : Config} (h : Free config l) (now : Instant) (events : List Event) :
    Free config (l.recordAll now events) := by
  induction events generalizing l with
  | nil => exact h
  | cons e events ih => exact ih (h.settle_record (e.recordAt now))

end StrategyHost.Audit.Logger
