import StrategyHost.Audit.Interleaving

/-!
# The queue of a logger

A producer that finds the queue full removes the oldest record and tries again, as often as the configuration lets it. The last try
removes a record, too, but nothing is put in its place any more. So one try is not enough: it costs the oldest record and the new one
(`record_iff`). With two or more tries the queue always holds the newest of the records that came (`foldl_record`).

`Configured` is what the configuration fixes of a logger, whoever makes the next move (`Ran.configured`).
-/

namespace StrategyHost.Audit.Logger
variable {config : Config} {l l' : Logger} {r : Record}

/-! ### What the configuration fixes -/

structure Configured (config : Config) (l : Logger) : Prop where
  capacity : l.capacity = max config.queueCapacity 1
  attempts : l.attempts = max config.enqueueAttempts 1
  bounded : l.queue.length ≤ l.capacity

theorem configured_start (config : Config) (trail : Trail) : Configured config (start config trail) :=
  ⟨rfl, rfl, Nat.zero_le _⟩

namespace Configured

theorem of_shorter (h : l.Configured config) (capacity : l'.capacity = l.capacity) (attempts : l'.attempts = l.attempts)
    (shorter : l'.queue.length ≤ l.queue.length) : l'.Configured config := by
  have bounded := h.bounded
  exact ⟨capacity.trans h.capacity, attempts.trans h.attempts, by omega⟩

theorem enqueue (h : l.Configured config) (r : Record) (n : Nat) : (l.enqueue r n).Configured config := by
  induction n generalizing l with
  | zero => exact h.of_shorter rfl rfl (Nat.le_refl _)
  | succ n ih =>
    rw [Logger.enqueue, offer]
    by_cases room : l.queue.length < l.capacity
    · simp only [room, ↓reduceIte]
      refine ⟨h.capacity, h.attempts, ?_⟩
      simp only [List.length_append, List.length_singleton]
      omega
    · simp only [room, ↓reduceIte]
      cases hq : l.queue with
      | nil => exact ih h
      | cons oldest rest => exact ih (h.of_shorter rfl rfl (by simp [hq]))

theorem record (h : l.Configured config) (r : Record) : (l.record r).Configured config := by
  rw [Logger.record]
  split
  · exact h.of_shorter rfl rfl (Nat.le_refl _)
  · exact h.enqueue r _

end Configured

/-- Whoever moves, a logger stays as it was configured, with a queue within its bound. -/
theorem Ran.configured {trail : Trail} {b : Busy} (ran : Ran config trail b) : b.logger.Configured config := by
  induction ran with
  | start => exact configured_start config trail
  | move _ move ih =>
    cases move with
    | put at_ room => exact ⟨ih.capacity, ih.attempts, List.length_append ▸ room⟩
    | remove at_ hq => exact ih.of_shorter rfl rfl (by simp [hq])
    | take takes free hq => exact ih.of_shorter rfl rfl (by simp [hq])
    | discard emptying hq => exact ih.of_shorter rfl rfl (by simp [hq])
    | _ => exact ⟨ih.capacity, ih.attempts, ih.bounded⟩

/-! ### Full queues -/

theorem enqueue_of_room (room : l.queue.length < l.capacity) (r : Record) (n : Nat) :
    l.enqueue r (n + 1) = { l with queue := l.queue ++ [r] } := by
  rw [Logger.enqueue, offer, if_pos room]

theorem enqueue_of_full {oldest : Record} {rest : List Record} (hq : l.queue = oldest :: rest)
    (full : l.queue.length = l.capacity) (r : Record) (n : Nat) :
    l.enqueue r (n + 1) = { l with queue := rest, dropped := l.dropped + 1 }.enqueue r n := by
  have noRoom : ¬ l.queue.length < l.capacity := by omega
  rw [Logger.enqueue, offer, if_neg noRoom, hq]

theorem record_of_serving (serving : l.closed = false) {n : Nat} (attempts : l.attempts = n) (r : Record) :
    l.record r = l.enqueue r n := by
  rw [Logger.record, serving, if_neg Bool.false_ne_true, attempts]

namespace Configured

theorem exists_attempts (h : l.Configured config) : ∃ n, l.attempts = n + 1 ∧ (1 ≤ n ↔ 2 ≤ config.enqueueAttempts) := by
  have attempts := h.attempts
  exact ⟨l.attempts - 1, by omega, by omega⟩

theorem exists_oldest (h : l.Configured config) (full : l.queue.length = l.capacity) : ∃ oldest rest, l.queue = oldest :: rest := by
  refine List.exists_cons_of_length_pos ?_
  have capacity := h.capacity
  omega

theorem record_of_room (h : l.Configured config) (serving : l.closed = false) (room : l.queue.length < l.capacity) (r : Record) :
    l.record r = { l with queue := l.queue ++ [r] } := by
  obtain ⟨n, attempts, -⟩ := h.exists_attempts
  rw [record_of_serving serving attempts, enqueue_of_room room]

theorem record_of_full (h : l.Configured config) (serving : l.closed = false) (full : l.queue.length = l.capacity)
    (again : 2 ≤ config.enqueueAttempts) (r : Record) :
    l.record r = { l with queue := l.queue.tail ++ [r], dropped := l.dropped + 1 } := by
  obtain ⟨n, attempts, more⟩ := h.exists_attempts
  obtain ⟨n, rfl⟩ := Nat.exists_eq_add_of_le' (more.2 again)
  obtain ⟨oldest, rest, hq⟩ := h.exists_oldest full
  rw [record_of_serving serving attempts, enqueue_of_full hq full, hq, List.tail_cons]
  refine enqueue_of_room (l := { l with queue := rest, dropped := l.dropped + 1 }) ?_ r n
  rw [hq, List.length_cons] at full
  exact Nat.lt_of_succ_le (Nat.le_of_eq full)

theorem record_of_full_once (h : l.Configured config) (serving : l.closed = false) (full : l.queue.length = l.capacity)
    (once : config.enqueueAttempts < 2) (r : Record) : l.record r = { l with queue := l.queue.tail, dropped := l.dropped + 2 } := by
  obtain ⟨n, attempts, more⟩ := h.exists_attempts
  obtain rfl : n = 0 := by omega
  obtain ⟨oldest, rest, hq⟩ := h.exists_oldest full
  rw [record_of_serving serving attempts, enqueue_of_full hq full, hq, List.tail_cons]
  rfl

/-- The queue holds the newest of the records that came, and the others are counted. -/
theorem foldl_record (h : l.Configured config) (serving : l.closed = false) (again : 2 ≤ config.enqueueAttempts)
    (rs : List Record) : rs.foldl Logger.record l =
      { l with queue := (l.queue ++ rs).drop ((l.queue ++ rs).length - l.capacity),
               dropped := l.dropped + ((l.queue ++ rs).length - l.capacity) } := by
  induction rs generalizing l with
  | nil =>
    have none : l.queue.length - l.capacity = 0 := Nat.sub_eq_zero_of_le h.bounded
    rw [List.append_nil, none]
    rfl
  | cons r rs ih =>
    have next := h.record r
    rcases Nat.lt_or_eq_of_le h.bounded with room | full
    · have appended := h.record_of_room serving room r
      rw [appended] at next
      rw [List.foldl_cons, appended, ih next serving, List.append_assoc, List.singleton_append]
    · obtain ⟨oldest, rest, hq⟩ := h.exists_oldest full
      have replaced := h.record_of_full serving full again r
      rw [hq, List.length_cons] at full
      have whole : l.queue ++ r :: rs = oldest :: (rest ++ [r] ++ rs) := by simp [hq]
      have count : (oldest :: (rest ++ [r] ++ rs)).length - l.capacity = (rest ++ [r] ++ rs).length - l.capacity + 1 := by
        simp only [List.length_cons, List.length_append]
        omega
      rw [replaced] at next
      rw [List.foldl_cons, replaced, ih next serving]
      have dropped (n : Nat) : l.dropped + 1 + n = l.dropped + (n + 1) := by omega
      rw [whole, count, List.drop_succ_cons]
      simp only [hq, List.tail_cons, dropped]

end Configured

/-- A producer puts its record behind the others if there is room. On a full queue it takes the place of the oldest one, which is
counted, just when the configuration allows a second try; with one try both records are dropped. -/
theorem record_iff (h : l.Configured config) (serving : l.closed = false) (r : Record) :
    (l.queue.length < l.capacity → l.record r = { l with queue := l.queue ++ [r] }) ∧
      (l.queue.length = l.capacity →
        (l.record r = { l with queue := l.queue.tail ++ [r], dropped := l.dropped + 1 } ↔ 2 ≤ config.enqueueAttempts) ∧
        (config.enqueueAttempts < 2 → l.record r = { l with queue := l.queue.tail, dropped := l.dropped + 2 })) := by
  refine ⟨fun room => h.record_of_room serving room r, fun full => ⟨⟨fun replaced => ?_, fun again => ?_⟩, fun once => ?_⟩⟩
  · rcases Nat.lt_or_ge config.enqueueAttempts 2 with once | again
    · rw [h.record_of_full_once serving full once] at replaced
      have dropped : l.dropped + 2 = l.dropped + 1 := congrArg Logger.dropped replaced
      omega
    · exact again
  · exact h.record_of_full serving full again r
  · exact h.record_of_full_once serving full once r

/-- A queue for two records that holds two, and a third one with one try. -/
theorem record_iff_once :
    let config : Config := { Config.standard with queueCapacity := 2, enqueueAttempts := 1 }
    let r : Record := ⟨⟨0, 0⟩, "system", "momentum", 1, .loadAttempt, .obj []⟩
    let l := (start config ⟨[], 0⟩).run [.record r, .record { r with version := 2 }]
    l.Configured config ∧ l.closed = false ∧ l.queue.length = l.capacity ∧
      l.record { r with version := 3 } = { l with queue := [{ r with version := 2 }], dropped := 2 } := by
  intro config r l
  have configured : l.Configured config := ((configured_start config ⟨[], 0⟩).record r).record _
  have full : l.queue.length = l.capacity := rfl
  have once : config.enqueueAttempts < 2 := by decide
  exact ⟨configured, rfl, full, ((record_iff configured rfl _).2 full).2 once⟩

/-- With one try a full queue loses its oldest record for nothing. -/
theorem not_record_replaces : ¬ ∀ (config : Config) (l : Logger) (r : Record), l.Configured config → l.closed = false →
    l.queue.length = l.capacity → l.record r = { l with queue := l.queue.tail ++ [r], dropped := l.dropped + 1 } := by
  intro replaces
  let config : Config := { Config.standard with queueCapacity := 1, enqueueAttempts := 1 }
  let r : Record := ⟨⟨1704067200, 0⟩, "system", "momentum", 1, .loadAttempt, .obj []⟩
  let l := (start config ⟨[], 0⟩).run [.record r]
  have configured : l.Configured config := (configured_start config ⟨[], 0⟩).record r
  have replaced := replaces config l r configured rfl rfl
  have dropped : 2 = 1 := congrArg Logger.dropped replaced
  exact absurd dropped (by decide)

end StrategyHost.Audit.Logger
