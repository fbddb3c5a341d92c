import Mathlib.Data.List.Perm.Subperm
import StrategyHost.Audit.Interleaving
import StrategyHost.Proofs.Audit.Chain

/-! # Every record is accounted for

Three things hold of a logger at work, whoever makes the next move: the trail is a chain that goes on from the first one with records
in the order in which they were put into the queue (`Chains`); no call puts in more than its own record (`Comes`); and the counters
tell where the records are, but for those that came while the writer emptied the queue and those that calls removed from it then
(`Counts`). Main statement: `Ran.accounts`. -/

namespace StrategyHost.Audit.Logger
variable {base : List Sealed} {config : Config} {trail : Trail} {b b' : Busy} {w : Writing} {r : Record}

/-! ### What is not counted yet -/

/-- How many records a call has still to account for: its own, and one that it has removed. -/
def Stage.weight : Stage → ℕ
  | removed _ => 2
  | _ => 1

def weights : List Call → ℕ
  | [] => 0
  | c :: calls => c.stage.weight + weights calls

theorem weights_at {before after : List Call} {c : Call} :
    weights (before ++ c :: after) = weights (before ++ after) + c.stage.weight := by
  induction before with
  | nil => exact Nat.add_comm ..
  | cons b before ih =>
    rw [List.cons_append, List.cons_append, weights, weights, ih]
    omega

def Task.weight : Task → ℕ
  | count => 1
  | _ => 0

/-- How many records the writer is about to count as lost. -/
def Writing.pending : Writing → ℕ
  | emptying n => n
  | losing n => n
  | _ => 0

namespace Busy

/-- How many records callers and writer have in their hands. -/
def unsettled (b : Busy) : ℕ := weights b.calls + b.task.weight + b.writing.pending

/-- How many records are in the queue and not among those that the writer is about to count as lost. -/
def queued (b : Busy) : ℕ := if b.writing.isEmptying then 0 else b.logger.queue.length

/-- Whether no call is in flight, and the writer has counted what it has done. -/
def AtRest (b : Busy) : Prop := b.calls = [] ∧ b.task ≠ .count ∧ b.writing.pending = 0 ∧ b.writing.isEmptying = false

end Busy

theorem weight_of_ne_count {t : Task} (h : t ≠ .count) : t.weight = 0 := by
  cases t with
  | count => exact absurd rfl h
  | _ => rfl

theorem length_toList {α : Type} (o : Option α) : o.toList.length = if o.isSome then 1 else 0 := by
  cases o <;> rfl

theorem weight_of_tried (h : b.tried = some w) : b.task.weight = 0 ∧ w.pending = b.writing.pending ∧
    w.isEmptying = b.writing.isEmptying := by
  unfold Busy.tried at h
  split at h <;> cases h <;> simp [*, Task.weight, Writing.pending, Writing.isEmptying]

theorem weight_of_takes (h : b.takes = true) : b.task.weight = 0 ∧ b.writing.isEmptying = false := by
  unfold Busy.takes at h
  split at h <;> simp_all [Task.weight, Writing.isEmptying]

/-! ### The trail -/

structure Chains (base : List Sealed) (b : Busy) : Prop where
  /-- The written records, the waiting one and those in the queue were put in in this order. -/
  kept : ∃ added, b.logger.trail.records = base ++ added ∧ added.length = b.logger.written + b.task.weight ∧
    (added.map Sealed.record ++ ((b.logger.head.map Sealed.record).toList ++ b.logger.queue)).Sublist b.sent
  accepted : verifyFrom none b.logger.trail.records = .ok ()
  /-- The next record is sealed behind the last of the trail. -/
  next : expectedAfter (some ⟨0, genesisHash⟩) b.logger.trail.records = some ⟨b.logger.nextSequence, b.logger.prevHash⟩
  head : ∀ s, b.logger.head = some s → ∃ r, s = .ofRecord b.logger.nextSequence b.logger.prevHash r

theorem chains_start (config : Config) (accepted : verifyFrom none trail.records = .ok ()) :
    Chains trail.records (.start config trail) where
  kept := ⟨[], (List.append_nil _).symm, rfl, List.Sublist.refl _⟩
  accepted := accepted
  next := by
    simp only [Busy.start, Logger.start, expectedAfter]
    cases trail.records.getLast? <;> rfl
  head s h := nomatch h

theorem sublist_of_tail {added : List Sealed} {head : Option Sealed} {queue rest sent : List Record} (hq : queue = r :: rest)
    (order : (added.map Sealed.record ++ ((head.map Sealed.record).toList ++ queue)).Sublist sent) :
    (added.map Sealed.record ++ ((head.map Sealed.record).toList ++ rest)).Sublist sent := by
  rw [hq] at order
  exact .trans (.append_left (.append_left (List.sublist_cons_self r rest) _) _) order

theorem Chains.move (h : Chains base b) (move : Move b b') : Chains base b' := by
  obtain ⟨added, records, written, order⟩ := h.kept
  cases move with
  | put at_ room =>
    refine ⟨⟨added, records, written, ?_⟩, h.accepted, h.next, h.head⟩
    simpa using order.append_right [_]
  | remove at_ hq => exact ⟨⟨added, records, written, sublist_of_tail hq order⟩, h.accepted, h.next, h.head⟩
  | discard emptying hq => exact ⟨⟨added, records, written, sublist_of_tail hq order⟩, h.accepted, h.next, h.head⟩
  | take takes hhead hq =>
    rw [hhead, hq] at order
    refine ⟨⟨added, records, ?_, order⟩, h.accepted, h.next, ?_⟩
    · rw [written, (weight_of_takes takes).1]
      rfl
    · rintro s ⟨⟩
      exact ⟨_, rfl⟩
  | append tried hhead accepts =>
    obtain ⟨r, rfl⟩ := h.head _ hhead
    rw [hhead] at order
    refine ⟨⟨added ++ [.ofRecord b.logger.nextSequence b.logger.prevHash r], ?_, ?_, ?_⟩, ?_, ?_, nofun⟩
    · simp only [records, List.append_assoc]
    · rw [List.length_append, written, (weight_of_tried tried).1]
      rfl
    · simpa using order
    · exact verifyFrom_append.2 ⟨h.accepted, verifyFrom_cons.2 ⟨continues_ofRecord r h.next, rfl⟩⟩
    · exact expectedAfter_concat
  | refuse tried hhead fails =>
    refine ⟨⟨added, records, ?_, order⟩, h.accepted, h.next, h.head⟩
    rw [written, (weight_of_tried tried).1]
    rfl
  | count task =>
    refine ⟨⟨added, records, ?_, order⟩, h.accepted, h.next, h.head⟩
    rw [written, task]
    rfl
  | giveUp stopping task hhead =>
    refine ⟨⟨added, records, written, ?_⟩, h.accepted, h.next, nofun⟩
    exact .trans (.append_left (.append_right (List.nil_sublist _) _) _) order
  | _ => exact ⟨⟨added, records, written, order⟩, h.accepted, h.next, h.head⟩

/-! ### The calls -/

structure Comes (b : Busy) : Prop where
  once : (b.sent ++ b.calls.map Call.record).Subperm b.begun
  /-- Calls of which each began when the one before was over put in their records in order. -/
  inOrder : b.overlapped = false → b.calls.length ≤ 1 ∧ (b.sent ++ b.calls.map Call.record).Sublist b.begun

theorem Comes.goOn (h : Comes b) {before after : List Call} {s s' : Stage} (at_ : b.calls = before ++ ⟨r, s⟩ :: after)
    (calls : b'.calls = before ++ ⟨r, s'⟩ :: after) (sent : b'.sent = b.sent) (begun : b'.begun = b.begun)
    (overlapped : b'.overlapped = b.overlapped) : Comes b' := by
  have records : b'.calls.map Call.record = b.calls.map Call.record := by rw [at_, calls]; simp
  have length : b'.calls.length = b.calls.length := by rw [at_, calls]; simp
  constructor
  · rw [sent, records, begun]
    exact h.once
  · rw [overlapped, length, sent, records, begun]
    exact h.inOrder

theorem Comes.move (h : Comes b) (move : Move b b') : Comes b' := by
  cases move with
  | enter r =>
    refine ⟨?_, fun alone => ?_⟩
    · simpa using (List.subperm_append_right [r]).2 h.once
    · obtain ⟨before, none⟩ : b.overlapped = false ∧ b.calls = [] := by simpa using alone
      have order := (h.inOrder before).2
      simp only [none, List.nil_append, List.map_nil, List.append_nil, List.map_cons, List.length_singleton] at order ⊢
      exact ⟨Nat.le_refl 1, order.append_right _⟩
  | look at_ => exact h.goOn at_ rfl rfl rfl rfl
  | put at_ room =>
    rename_i before r n after
    have once := h.once
    rw [at_] at once
    constructor
    · refine .trans (List.Perm.subperm ?_) once
      simpa using List.perm_middle.symm.append_left b.sent
    · intro alone
      obtain ⟨one, order⟩ := h.inOrder alone
      rw [at_] at one order
      rw [List.length_append, List.length_cons] at one
      obtain rfl : before = [] := List.eq_nil_of_length_eq_zero (by omega)
      obtain rfl : after = [] := List.eq_nil_of_length_eq_zero (by omega)
      simpa using order
  | findFull at_ full => exact h.goOn at_ rfl rfl rfl rfl
  | remove at_ hq => exact h.goOn at_ rfl rfl rfl rfl
  | findEmpty at_ hq => exact h.goOn at_ rfl rfl rfl rfl
  | countOldest at_ => exact h.goOn at_ rfl rfl rfl rfl
  | countNewest at_ =>
    rename_i before r after
    have less : (before ++ after).Sublist b.calls := at_ ▸ (List.sublist_cons_self _ after).append_left before
    have records := (less.map Call.record).append_left b.sent
    refine ⟨records.subperm.trans h.once, fun alone => ?_⟩
    obtain ⟨one, order⟩ := h.inOrder alone
    exact ⟨Nat.le_trans less.length_le one, records.trans order⟩
  | _ => exact ⟨h.once, h.inOrder⟩

/-! ### The counters -/

/-- What the counters tell. A record that was put into the queue while the writer emptied it is in none of them, and one that a call
removed from it then is in two. -/
def Counts (b : Busy) : Prop :=
  b.begun.length + b.doubled = b.logger.written + b.logger.dropped + b.logger.lost + b.queued + b.logger.head.toList.length +
    b.unsettled + b.missed

theorem Counts.move (h : Counts b) (move : Move b b') : Counts b' := by
  unfold Counts Busy.queued Busy.unsettled at *
  cases move with
  | enter r =>
    simp only [List.length_append, List.length_singleton, weights_at, List.append_nil, Stage.weight] at h ⊢
    omega
  | look at_ => rw [at_, weights_at] at h; simpa only [weights_at, Stage.weight] using h
  | put at_ room =>
    rw [at_, weights_at] at h
    cases hw : b.writing.isEmptying <;>
      simp only [hw, Bool.false_eq_true, ↓reduceIte, Bool.toNat_false, Bool.toNat_true, Stage.weight, List.length_append,
        List.length_singleton] at h ⊢ <;>
      omega
  | findFull at_ full => rw [at_, weights_at] at h; simpa only [weights_at, Stage.weight] using h
  | remove at_ hq =>
    rw [at_, weights_at, hq] at h
    cases hw : b.writing.isEmptying <;>
      simp only [hw, Bool.false_eq_true, ↓reduceIte, Bool.toNat_false, Bool.toNat_true, Stage.weight, weights_at,
        List.length_cons] at h ⊢ <;>
      omega
  | findEmpty at_ hq => rw [at_, weights_at] at h; simpa only [weights_at, Stage.weight] using h
  | countOldest at_ =>
    rw [at_, weights_at] at h
    simp only [weights_at, Stage.weight] at h ⊢
    omega
  | countNewest at_ =>
    rw [at_, weights_at] at h
    simp only [Stage.weight] at h ⊢
    omega
  | take takes hhead hq =>
    obtain ⟨task, writing⟩ := weight_of_takes takes
    simp only [hhead, hq, writing, task] at h ⊢
    simp only [Task.weight, Bool.false_eq_true, ↓reduceIte, Option.toList_none, Option.toList_some, List.length_cons,
      List.length_nil] at h ⊢
    omega
  | append tried hhead accepts =>
    obtain ⟨task, pending, emptying⟩ := weight_of_tried tried
    simp only [hhead, task, pending, emptying] at h ⊢
    simp only [Task.weight, Option.toList_none, Option.toList_some, List.length_cons, List.length_nil] at h ⊢
    omega
  | refuse tried hhead fails =>
    obtain ⟨task, pending, emptying⟩ := weight_of_tried tried
    simp only [task, pending, emptying] at h ⊢
    exact h
  | count task =>
    simp only [task, Task.weight] at h ⊢
    omega
  | stop serving task closed =>
    rw [serving] at h
    exact h
  | leave stopping task hhead hq =>
    rw [stopping] at h
    exact h
  | giveUp stopping task hhead =>
    obtain ⟨s, hs⟩ := Option.isSome_iff_exists.1 hhead
    simp only [stopping, hs, Writing.pending, Writing.isEmptying, Bool.false_eq_true, ↓reduceIte, Option.toList_none,
      Option.toList_some, List.length_cons, List.length_nil] at h ⊢
    omega
  | discard emptying hq =>
    simp only [emptying] at h ⊢
    exact h
  | findNone emptying hq =>
    simp only [emptying, hq, Writing.pending, Writing.isEmptying, Bool.false_eq_true, ↓reduceIte, List.length_nil] at h ⊢
    exact h
  | lose losing =>
    simp only [losing, Writing.pending, Writing.isEmptying, Bool.false_eq_true, ↓reduceIte] at h ⊢
    omega
  | failNext n => exact h
  | close => exact h

/-! ### Runs -/

theorem Ran.chains (accepted : verifyFrom none trail.records = .ok ()) (ran : Ran config trail b) : Chains trail.records b := by
  induction ran with
  | start => exact chains_start config accepted
  | move _ move ih => exact ih.move move

theorem Ran.comes (ran : Ran config trail b) : Comes b := by
  induction ran with
  | start => exact ⟨.refl _, fun _ => ⟨Nat.zero_le 1, .refl _⟩⟩
  | move _ move ih => exact ih.move move

theorem Ran.counts (ran : Ran config trail b) : Counts b := by
  induction ran with
  | start => rfl
  | move _ move ih => exact ih.move move

/-- At rest every record has been written, dropped or lost, waits at the head or is in the queue, except that as many are missed as
were put in while the writer emptied the queue, and as many counted twice as calls removed then. -/
theorem Counts.atRest (h : Counts b) (rest : b.AtRest) : b.begun.length + b.doubled = b.logger.written + b.logger.dropped +
    b.logger.lost + b.logger.queue.length + (if b.logger.head.isSome then 1 else 0) + b.missed := by
  obtain ⟨calls, task, pending, emptying⟩ := rest
  simp only [Counts, Busy.queued, Busy.unsettled, calls, weight_of_ne_count task, pending, emptying, length_toList] at h
  exact h

/-! ### A logger that has lost nothing -/

/-- As long as the writer has no record to lose, it has not begun to empty the queue. -/
def Spares (b : Busy) : Prop :=
  b.logger.lost + b.writing.pending = 0 → b.missed = 0 ∧ b.doubled = 0 ∧ b.writing.isEmptying = false

theorem Spares.move (h : Spares b) (move : Move b b') : Spares b' := by
  intro none
  cases move with
  | put at_ room =>
    obtain ⟨missed, doubled, emptying⟩ := h none
    exact ⟨by simp only [missed, emptying, Bool.toNat_false], doubled, emptying⟩
  | remove at_ hq =>
    obtain ⟨missed, doubled, emptying⟩ := h none
    exact ⟨missed, by simp only [doubled, emptying, Bool.toNat_false], emptying⟩
  | append tried hhead accepts =>
    obtain ⟨-, pending, emptying⟩ := weight_of_tried tried
    obtain ⟨missed, doubled, before⟩ := h (pending ▸ none)
    exact ⟨missed, doubled, emptying.trans before⟩
  | refuse tried hhead fails =>
    obtain ⟨-, pending, emptying⟩ := weight_of_tried tried
    obtain ⟨missed, doubled, before⟩ := h (pending ▸ none)
    exact ⟨missed, doubled, emptying.trans before⟩
  | stop serving task closed =>
    obtain ⟨missed, doubled, -⟩ := h (serving ▸ none)
    exact ⟨missed, doubled, rfl⟩
  | leave stopping task hhead hq =>
    obtain ⟨missed, doubled, -⟩ := h (stopping ▸ none)
    exact ⟨missed, doubled, rfl⟩
  | giveUp stopping task hhead =>
    simp only [Writing.pending] at none
    omega
  | findNone emptying hq =>
    obtain ⟨missed, doubled, -⟩ := h (emptying ▸ none)
    exact ⟨missed, doubled, rfl⟩
  | lose losing =>
    obtain ⟨missed, doubled, -⟩ := h (losing ▸ none)
    exact ⟨missed, doubled, rfl⟩
  | _ => exact h none

theorem Ran.spares (ran : Ran config trail b) : Spares b := by
  induction ran with
  | start => exact fun _ => ⟨rfl, rfl, rfl⟩
  | move _ move ih => exact ih.move move

/-- The records that a logger has behind `base`: in its trail, waiting, and in its queue. -/
def recordsAfter (base : List Sealed) (l : Logger) : List Record :=
  (l.trail.records.drop base.length).map Sealed.record ++ ((l.head.map Sealed.record).toList ++ l.queue)

/-- A logger at rest that has dropped and lost nothing has the record of every call, in their order if each began when the one before
was over. -/
theorem Ran.recordsAfter_perm (accepted : verifyFrom none trail.records = .ok ()) (ran : Ran config trail b) (rest : b.AtRest)
    (dropped : b.logger.dropped = 0) (lost : b.logger.lost = 0) :
    (b.logger.recordsAfter trail.records).Perm b.begun ∧
      (b.overlapped = false → b.logger.recordsAfter trail.records = b.begun) := by
  obtain ⟨added, records, written, order⟩ := (ran.chains accepted).kept
  have comes := ran.comes
  have count := ran.counts.atRest rest
  obtain ⟨calls, task, pending, -⟩ := rest
  obtain ⟨missed, doubled, -⟩ := ran.spares (by rw [lost, pending])
  have kept : b.logger.recordsAfter trail.records =
      added.map Sealed.record ++ ((b.logger.head.map Sealed.record).toList ++ b.logger.queue) := by
    rw [recordsAfter, records, List.drop_left]
  rw [← kept] at order
  have sent : b.sent.Subperm b.begun := (List.sublist_append_left ..).subperm.trans comes.once
  have length : (b.logger.recordsAfter trail.records).length = b.begun.length := by
    rw [kept, List.length_append, List.length_append, List.length_map, written, weight_of_ne_count task, length_toList,
      Option.isSome_map]
    omega
  refine ⟨(order.subperm.trans sent).perm_of_length_le (Nat.le_of_eq length.symm), fun alone => ?_⟩
  exact (order.trans ((List.sublist_append_left ..).trans (comes.inOrder alone).2)).eq_of_length length

/-! ### The account -/

/-- From a chain that is accepted a logger comes, whoever moves and whatever the trail refuses, only to chains that are accepted and
go on from it with records in the order in which they were put into the queue, each call's at most once; if each call begins when the
one before is over, that is the order of the calls. Whenever nothing is going on, each call is counted once, just when as many records
were put into the queue as were removed by calls while the writer emptied it. -/
theorem Ran.accounts {n : ℕ} (accepted : verifyChain trail.records = .ok n) (ran : Ran config trail b) :
    (∃ added, b.logger.trail.records = trail.records ++ added ∧ verifyChain b.logger.trail.records = .ok (n + added.length) ∧
      (added.map Sealed.record).Sublist b.sent ∧ b.sent.Subperm b.begun ∧ (b.overlapped = false → b.sent.Sublist b.begun)) ∧
    b.begun.length + b.doubled = b.logger.written + b.logger.dropped + b.logger.lost + b.queued + b.logger.head.toList.length +
      b.unsettled + b.missed ∧
    (b.AtRest → (b.begun.length = b.logger.written + b.logger.dropped + b.logger.lost + b.logger.queue.length +
      (if b.logger.head.isSome then 1 else 0) ↔ b.missed = b.doubled)) := by
  obtain ⟨first, length⟩ := verifyChain_eq_ok.1 accepted
  have chains := ran.chains first
  have comes := ran.comes
  have counts := ran.counts
  refine ⟨?_, counts, fun rest => ?_⟩
  · obtain ⟨added, records, -, order⟩ := chains.kept
    have whole : verifyChain b.logger.trail.records = .ok (n + added.length) := by
      rw [verifyChain_eq_ok, ← length, ← List.length_append, ← records]
      exact ⟨chains.accepted, rfl⟩
    have sent := List.sublist_append_left b.sent (b.calls.map Call.record)
    exact ⟨added, records, whole, (List.sublist_append_left ..).trans order, sent.subperm.trans comes.once,
      fun alone => sent.trans (comes.inOrder alone).2⟩
  · have := counts.atRest rest
    omega

/-! ### A call that comes late -/

/-- A queue for one record, and no further try to append once the writer was told to stop. -/
def tightConfig : Config := { Config.standard with queueCapacity := 1, maxRetries := 0 }

/-- Of two calls one was counted as lost and the other not at all. -/
def afterLateCall (r : Record) : Busy :=
  { Busy.start tightConfig ⟨[], 0⟩ with
    logger := { Logger.start tightConfig ⟨[], 0⟩ with lost := 1, closed := true }
    writing := .stopped
    begun := [r, r]
    sent := [r, r]
    missed := 1 }

/-- The first record waits at the head. The second call finds the logger open, and puts its record into the queue when the writer has
taken the number of those that are lost. -/
theorem ran_afterLateCall (r : Record) : Ran tightConfig ⟨[], 0⟩ (afterLateCall r) := by
  have ran := ((Ran.start : Ran tightConfig ⟨[], 0⟩ _).move (.failNext 1)).move (.enter r)
  have ran := ran.move (@Move.look _ [] r [] rfl)
  have ran := ran.move (@Move.put _ [] r 2 [] rfl Nat.zero_lt_one)
  have ran := ran.move (.take rfl rfl rfl)
  have ran := ran.move (.refuse rfl rfl Nat.one_ne_zero)
  have ran := ran.move (.enter r)
  have ran := ran.move (@Move.look _ [] r [] rfl)
  have ran := ((ran.move .close).move (.stop rfl rfl rfl)).move (.giveUp rfl rfl rfl)
  have ran := ran.move (@Move.put _ [] r 2 [] rfl Nat.zero_lt_one)
  have ran := ((ran.move (.discard rfl rfl)).move (.findNone rfl rfl)).move (.lose rfl)
  exact ran

theorem atRest_afterLateCall (r : Record) : (afterLateCall r).AtRest := ⟨rfl, nofun, rfl, rfl⟩

/-- The second of two calls is counted nowhere. -/
theorem accounts_afterLateCall :
    let r : Record := ⟨⟨0, 0⟩, "system", "momentum", 1, .loadAttempt, .obj []⟩
    let b := afterLateCall r
    verifyChain [] = .ok 0 ∧ Ran tightConfig ⟨[], 0⟩ b ∧ b.AtRest ∧
      (b.begun.length = b.logger.written + b.logger.dropped + b.logger.lost + b.logger.queue.length +
        (if b.logger.head.isSome then 1 else 0) ↔ b.missed = b.doubled) := by
  intro r b
  have ran : Ran tightConfig ⟨[], 0⟩ b := ran_afterLateCall r
  have rest : b.AtRest := atRest_afterLateCall r
  exact ⟨rfl, ran, rest, (ran.accounts rfl).2.2 rest⟩

/-- A call can be counted nowhere although nothing is going on any more. -/
theorem not_accounts : ¬ ∀ (config : Config) (trail : Trail) (n : ℕ) (b : Busy), verifyChain trail.records = .ok n →
    Ran config trail b → b.AtRest → b.begun.length = b.logger.written + b.logger.dropped + b.logger.lost +
      b.logger.queue.length + (if b.logger.head.isSome then 1 else 0) := by
  intro counted
  let r : Record := ⟨⟨1704067200, 0⟩, "system", "momentum", 1, .loadAttempt, .obj []⟩
  have both := counted tightConfig ⟨[], 0⟩ 0 _ rfl (ran_afterLateCall r) (atRest_afterLateCall r)
  exact absurd both (by decide)

end StrategyHost.Audit.Logger
