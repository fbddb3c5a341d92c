import StrategyHost.Proofs.Gateway.Restore

/-!
# How often a store is read

What a store answers may depend on what was read before: `Reads σ` are the reads of a store with states `σ`, whatever they answer.
`Act.createReading` is a request for what such a store has; for the store of the surroundings it is `Act.createFromStore`
(`createFromStore_eq`). Reading ends with the first response that settles the matter or with the last attempt (`StopsAt`), and what
the last response was decides between an error and `Act.create` (`createReading_exact`). Main statement: `createFromStore_exact`,
which counts the reads and the failures that are left over in the store of the surroundings, too.
-/

namespace StrategyHost
variable {σ α β : Type}

/-! ### Responses -/

/-- A response after which there is nothing left to ask: what was asked for, that it is missing, or a failure that will not pass. -/
inductive Settles : Except StoreError α → Prop
  | ok (a : α) : Settles (.ok a)
  | notFound (text : String) : Settles (.error (.notFound text))
  | lasting {e : StoreError} (h : e.isRetryable = false) : Settles (.error e)

theorem settles_iff {response : Except StoreError α} : Settles response ↔ ∀ text, response ≠ .error (.unavailable text) := by
  constructor
  · rintro settles text rfl
    cases settles with
    | lasting h => cases h
  · intro other
    rcases response with (text | text | text | text) | a
    · exact .notFound text
    · exact absurd rfl (other text)
    · exact .lasting rfl
    · exact .lasting rfl
    · exact .ok a

/-- Of at most so many responses, counted from zero, the one at `k` is the last: it settles the matter or there may be no more, and
none before it settles anything. -/
structure StopsAt (responses : Nat → Except StoreError α) (attempts k : Nat) : Prop where
  lt : k < attempts
  passing : ∀ j < k, ¬ Settles (responses j)
  stops : k + 1 = attempts ∨ Settles (responses k)

/-- What the response to a read means for a request. `attempt` counts the reads from one. -/
def report (operation identity : String) (attempt : Nat) : Except StoreError α → Except LoadError α
  | .ok a => .ok a
  | .error (.notFound _) => .error (.unknownIdentity identity)
  | .error e => .error (.storeUnavailable s!"{operation} for {identity} failed after {attempt} attempt(s): {e.message}")

section
variable (read : σ → Except StoreError α × σ)

def afterReads : Nat → σ → σ
  | 0, store => store
  | n + 1, store => afterReads n (read store).2

def response (store : σ) (n : Nat) : Except StoreError α := (read (afterReads read n store)).1

end

/-! ### The attempts -/

namespace Act
section
variable {operation identity : String} {read : σ → Except StoreError α × σ} {left attempt : Nat} {store : σ}

theorem readStore_settled (settles : Settles (read store).1) : readStore operation identity read left attempt store =
    (report operation identity attempt (read store).1, (read store).2) := by
  rw [settles_iff] at settles
  rw [readStore.eq_def]
  rcases ran : read store with ⟨answer, store'⟩
  rw [ran] at settles
  rcases answer with (text | text | text | text) | a
  · simp [ran, report]
  · exact absurd rfl (settles text)
  · cases left <;> simp [ran, report, StoreError.isRetryable]
  · cases left <;> simp [ran, report, StoreError.isRetryable]
  · simp [ran, report]

theorem readStore_last : readStore operation identity read 0 attempt store =
    (report operation identity attempt (read store).1, (read store).2) := by
  rw [readStore.eq_def]
  rcases ran : read store with ⟨(text | text | text | text) | a, store'⟩ <;> simp [ran, report]

theorem readStore_again (passing : ¬ Settles (read store).1) : readStore operation identity read (left + 1) attempt store =
    readStore operation identity read left (attempt + 1) (read store).2 := by
  simp only [settles_iff, not_forall, not_not] at passing
  obtain ⟨text, passing⟩ := passing
  rcases ran : read store with ⟨answer, store'⟩
  obtain rfl : answer = .error (.unavailable text) := by rw [← passing, ran]
  rw [readStore.eq_def]
  simp [ran, StoreError.isRetryable]

theorem readStore_stops (operation identity : String) (read : σ → Except StoreError α × σ) (left attempt : Nat) (store : σ) :
    ∃ k, StopsAt (response read store) (left + 1) k ∧ readStore operation identity read left attempt store =
      (report operation identity (attempt + k) (response read store k), afterReads read (k + 1) store) := by
  induction left generalizing attempt store with
  | zero => exact ⟨0, ⟨Nat.one_pos, fun j before => absurd before j.not_lt_zero, .inl rfl⟩, readStore_last⟩
  | succ left ih =>
    by_cases settles : Settles (read store).1
    · exact ⟨0, ⟨Nat.succ_pos _, fun j before => absurd before j.not_lt_zero, .inr settles⟩, readStore_settled settles⟩
    obtain ⟨k, ⟨lt, passing, stops⟩, ran⟩ := ih (attempt + 1) (read store).2
    refine ⟨k + 1, ⟨by omega, fun j before => ?_, stops.imp_left (by omega)⟩, ?_⟩
    · cases j with
      | zero => exact settles
      | succ j => exact passing j (by omega)
    · rw [readStore_again settles, ran, show attempt + 1 + k = attempt + (k + 1) by omega]
      rfl

theorem readStore_map (f : α → β) : readStore operation identity (fun store => ((read store).1.map f, (read store).2)) left
    attempt store = ((readStore operation identity read left attempt store).1.map f,
      (readStore operation identity read left attempt store).2) := by
  have same (store : σ) : Settles ((read store).1.map f) ↔ Settles (read store).1 := by
    rw [settles_iff, settles_iff]
    rcases (read store).1 with e | a <;> simp [Except.map]
  have reported (attempt : Nat) (store : σ) : report operation identity attempt ((read store).1.map f) =
      (report operation identity attempt (read store).1).map f := by
    rcases (read store).1 with (text | text | text | text) | a <;> rfl
  induction left generalizing attempt store with
  | zero => rw [readStore_last, readStore_last, reported]
  | succ left ih =>
    by_cases settles : Settles (read store).1
    · rw [readStore_settled settles, readStore_settled ((same store).2 settles), reported]
    · rw [readStore_again settles, readStore_again (mt (same store).1 settles), ih]

end
end Act

/-! ### Requests for what a store has -/

/-- What a gateway reads of a store: each read gives a response, and leaves the store in a new state. -/
structure Reads (σ : Type) where
  config (identity : String) : σ → Except StoreError Params × σ
  source (identity : String) (version : Nat) : σ → Except StoreError String × σ

namespace Reads

def payload (r : Reads σ) (tier : Tier) (identity : String) (version : Nat) (store : σ) : Except StoreError Payload × σ :=
  match tier with
  | .predefined => (.ok .predefined, store)
  | .configured => ((r.config identity store).1.map .configured, (r.config identity store).2)
  | .dynamic => ((r.source identity version store).1.map .dynamic, (r.source identity version store).2)

def operation : Tier → String
  | .predefined => ""
  | .configured => "read_config"
  | .dynamic => "read_source"

def ofStore : Reads StrategyStore := ⟨fun identity store => store.readConfig identity,
  fun identity version store => store.readSource identity version⟩

end Reads

def Scene.withStore (s : Scene) (store : StrategyStore) : Scene := { s with world := { s.world with store? := some store } }

namespace Act

/-- A request for what a store has. `see` is the scene when the store is in a state. -/
def createReading (r : Reads σ) (see : σ → Scene) (attempts : Nat) (tier : Tier) (identity : String) (version : Nat) (store : σ) :
    (Except LoadError Handle × Scene) × σ :=
  let (fetched, store) := readStore (Reads.operation tier) identity (r.payload tier identity version) (max attempts 1 - 1) 1 store
  match fetched with
  | .ok payload => ((create ⟨identity, version, payload, Audit.systemActor⟩).run (see store), store)
  | .error e => ((.error e, see store), store)

/-- What the last response makes of a request, the one to read `attempt`. Only a payload changes anything in the scene. -/
def conclude (tier : Tier) (identity : String) (version attempt : Nat) (s : Scene) :
    Except StoreError Payload → Except LoadError Handle × Scene
  | .ok payload => (create ⟨identity, version, payload, Audit.systemActor⟩).run s
  | .error (.notFound _) => (.error (.unknownIdentity identity), s)
  | .error e => (.error (.storeUnavailable
      s!"{Reads.operation tier} for {identity} failed after {attempt} attempt(s): {e.message}"), s)

theorem createReading_exact (r : Reads σ) (see : σ → Scene) (attempts : Nat) (tier : Tier) (identity : String) (version : Nat)
    (store : σ) : ∃ k, StopsAt (response (r.payload tier identity version) store) (max attempts 1) k ∧
      createReading r see attempts tier identity version store =
        (conclude tier identity version (k + 1) (see (afterReads (r.payload tier identity version) (k + 1) store))
          (response (r.payload tier identity version) store k), afterReads (r.payload tier identity version) (k + 1) store) := by
  obtain ⟨k, stops, ran⟩ := readStore_stops (Reads.operation tier) identity (r.payload tier identity version)
    (max attempts 1 - 1) 1 store
  rw [show max attempts 1 - 1 + 1 = max attempts 1 by omega] at stops
  refine ⟨k, stops, ?_⟩
  rw [createReading, ran, Nat.add_comm 1 k]
  rcases response (r.payload tier identity version) store k with (text | text | text | text) | payload <;> rfl

theorem run_fetch {s : Scene} {store : StrategyStore} (held : s.world.store? = some store) (operation identity : String)
    (read : StrategyStore → Except StoreError α × StrategyStore) (absent : String) :
    (fetch operation identity read absent).run s =
      let ran := readStore operation identity read (max s.gateway.config.factory.storeAttempts 1 - 1) 1 store
      (ran.1, s.withStore ran.2) := by
  simp only [fetch, run_bind, run_get, held]
  rfl

/-- The request for what the store of the surroundings has. -/
theorem createFromStore_eq {s : Scene} {store : StrategyStore} (held : s.world.store? = some store) {tier : Tier}
    (stored : tier ≠ .predefined) (identity : String) (version : Nat) : (createFromStore tier identity version).run s =
      (createReading .ofStore s.withStore s.gateway.config.factory.storeAttempts tier identity version store).1 := by
  cases tier with
  | predefined => exact absurd rfl stored
  | configured =>
    have fetched : Reads.ofStore.payload .configured identity version = fun store =>
      ((store.readConfig identity).1.map Payload.configured, (store.readConfig identity).2) := rfl
    simp only [createFromStore, fetchPayload, run_bind, run_fetch held, createReading, Reads.operation, fetched, readStore_map]
    rcases readStore "read_config" identity _ _ _ _ with ⟨e | params, store'⟩ <;> rfl
  | dynamic =>
    have fetched : Reads.ofStore.payload .dynamic identity version = fun store =>
      ((store.readSource identity version).1.map Payload.dynamic, (store.readSource identity version).2) := rfl
    simp only [createFromStore, fetchPayload, run_bind, run_fetch held, createReading, Reads.operation, fetched, readStore_map]
    rcases readStore "read_source" identity _ _ _ _ with ⟨e | source, store'⟩ <;> rfl

end Act

/-! ### The store of the surroundings -/

section
variable {tier : Tier} (stored : tier ≠ .predefined) (identity : String) (version : Nat) (store : StrategyStore)
include stored

theorem Reads.payload_ofStore_snd : (Reads.ofStore.payload tier identity version store).2 =
    { store with reads := store.reads + 1, failures := store.failures - 1 } := by
  have counted {α : Type} (found : Option α) (what : String) : (store.read found what).2 =
      { store with reads := store.reads + 1, failures := store.failures - 1 } := by
    unfold StrategyStore.read
    by_cases failing : 0 < store.failures
    · simp [failing]
    · cases found <;> simp [show store.failures = 0 by omega]
  cases tier with
  | predefined => exact absurd rfl stored
  | configured => exact counted (assocGet? identity store.configs) _
  | dynamic => exact counted (assocGet? (identity, version) store.sources) _

theorem Reads.settles_ofStore : Settles (Reads.ofStore.payload tier identity version store).1 ↔ store.failures = 0 := by
  have settled {α β : Type} (found : Option α) (what : String) (f : α → β) :
      Settles ((store.read found what).1.map f) ↔ store.failures = 0 := by
    rw [settles_iff]
    unfold StrategyStore.read
    by_cases failing : 0 < store.failures
    · simp [failing, Except.map, show store.failures ≠ 0 by omega]
    · cases found <;> simp [failing, Except.map] <;> omega
  cases tier with
  | predefined => exact absurd rfl stored
  | configured => exact settled ..
  | dynamic => exact settled ..

theorem afterReads_ofStore (n : Nat) : afterReads (Reads.ofStore.payload tier identity version) n store =
    { store with reads := store.reads + n, failures := store.failures - n } := by
  induction n generalizing store with
  | zero => rfl
  | succ n ih =>
    rw [afterReads, ih, Reads.payload_ofStore_snd stored]
    simp only [StrategyStore.mk.injEq, true_and]
    omega

/-- The reads of a store with failures to come: one more than there are failures, as far as the attempts go. -/
theorem StopsAt.ofStore {attempts k : Nat}
    (stops : StopsAt (response (Reads.ofStore.payload tier identity version) store) attempts k) :
    k + 1 = min (store.failures + 1) attempts := by
  have settles (j : Nat) : Settles (response (Reads.ofStore.payload tier identity version) store j) ↔ store.failures ≤ j := by
    rw [response, Reads.settles_ofStore stored, afterReads_ofStore stored]
    exact Nat.sub_eq_zero_iff_le
  obtain ⟨lt, passing, last⟩ := stops
  have few : k ≤ store.failures := by
    by_contra more
    exact passing store.failures (by omega) ((settles _).2 le_rfl)
  rcases last with used | settled
  · omega
  · have := (settles k).1 settled
    omega

end

/-! ### What creating a handle leaves alone -/

namespace Act

def LeavesStore (x : Act α) : Prop := ∀ s : Scene, (x.run s).2.world.store? = s.world.store?

namespace LeavesStore
variable {x : Act α} {f : α → Act β}

theorem pure (a : α) : LeavesStore (Pure.pure a) := fun _ => rfl

theorem bind (hx : LeavesStore x) (hf : ∀ a, LeavesStore (f a)) : LeavesStore (x >>= f) :=
  fun s => (hf _ _).trans (hx s)

theorem get_bind {f : Scene → Act β} (hf : ∀ s, LeavesStore (f s)) : LeavesStore (get >>= f) := fun s => hf s s

theorem forM {f : α → Act PUnit} (h : ∀ a, LeavesStore (f a)) (as : List α) : LeavesStore (as.forM f) := by
  induction as with
  | nil => exact pure _
  | cons a as ih => exact bind (h a) fun _ => ih

theorem emit (e : Audit.Event) : LeavesStore (Act.emit e) := fun _ => rfl

theorem modifyCache (f : Cache Handle → Cache Handle) : LeavesStore (Act.modifyCache f) := fun _ => rfl

theorem stepCache (f : Cache Handle → α × Cache Handle) : LeavesStore (Act.stepCache f) := fun _ => rfl

theorem readShared (key : CacheKey) : LeavesStore (Act.readShared key) := by
  refine get_bind fun s => ?_
  split
  · exact pure _
  split
  · exact bind (emit _) fun _ => pure _
  · exact pure _
  split
  · exact bind (emit _) fun _ => pure _
  split
  · exact bind (modifyCache _) fun _ => pure _
  · exact pure _

theorem writeShared (h : Handle) : LeavesStore (Act.writeShared h) := by
  intro s
  rw [Act.writeShared]
  split
  · rfl
  simp only [changeShared, run_bind, run_get]
  cases s.world.tier? with
  | none => rfl
  | some tier =>
    dsimp only
    split <;> rfl

theorem tryOut (d : Descriptor) (h : Handle) : LeavesStore (Act.tryOut d h) := by
  refine bind (forM emit _) fun _ => ?_
  split
  · exact bind (emit _) fun _ => pure _
  · exact pure _

theorem handOut (d : Descriptor) (l : Loaded) : LeavesStore (Act.handOut d l) := by
  have numbered : LeavesStore (handleOf d l) := fun _ => rfl
  have asked : LeavesStore config := fun _ => rfl
  refine bind numbered fun h => bind asked fun settings => ?_
  split
  · exact bind (tryOut d h) fun _ => pure _
  · exact pure _

theorem runLoading (d : Descriptor) (load : Loading Loaded) : LeavesStore (Act.runLoading d load) := fun _ => rfl

theorem loadAnew (d : Descriptor) : LeavesStore (Act.loadAnew d) := by
  refine get_bind fun s => bind (runLoading d _) fun result => ?_
  split
  · exact handOut d _
  · exact pure _

theorem loadFrom (d : Descriptor) (snapshot? : Option Snapshot) : LeavesStore (Act.loadFrom d snapshot?) := by
  unfold Act.loadFrom
  split
  · exact loadAnew d
  refine get_bind fun s => bind (runLoading d _) fun result => ?_
  split
  · exact handOut d _
  · exact loadAnew d

theorem keep (t : Ticket) (restored : Bool) (h : Handle) : LeavesStore (Act.keep t restored h) := by
  refine bind (stepCache _) fun kept => ?_
  split
  · exact writeShared h
  · exact pure _

theorem runLoad (d : Descriptor) (t : Ticket) : LeavesStore (Act.runLoad d t) := by
  unfold Act.runLoad
  split
  all_goals
    refine bind (by first | exact readShared _ | exact pure _) fun snapshot? => bind (loadFrom d snapshot?) fun result => ?_
    cases result with
    | ok h => exact bind (keep t _ h) fun _ => bind (modifyCache _) fun _ => pure _
    | error e => exact bind (stepCache _) fun _ => bind (modifyCache _) fun _ => pure _

/-- Creating a handle has nothing to do with the store. -/
theorem create (d : Descriptor) : LeavesStore (Act.create d) := by
  refine bind (stepCache _) fun found => ?_
  cases found with
  | closed => exact bind (emit _) fun _ => loadFrom d none
  | hit h => exact pure _
  | began t => exact runLoad d t
  | joined id => exact pure _

end LeavesStore

theorem store?_conclude (tier : Tier) (identity : String) (version attempt : Nat) (s : Scene) (last : Except StoreError Payload) :
    (conclude tier identity version attempt s last).2.world.store? = s.world.store? := by
  rcases last with (text | text | text | text) | payload
  · rfl
  · rfl
  · rfl
  · rfl
  · exact LeavesStore.create _ s

/-- A store is read up to the first response that settles the matter, or as often as the configuration allows, and no further. What
is missing is an unknown identity and any other failure an unavailable store, both with the scene as it was; for a payload the
handle is created. The store of the surroundings is read once more than it fails, as far as the attempts go, and is left with the
failures that no attempt has met. -/
theorem createFromStore_exact (tier : Tier) (stored : tier ≠ .predefined) (identity : String) (version : Nat) :
    (∀ (σ : Type) (r : Reads σ) (see : σ → Scene) (attempts : Nat) (store : σ),
      let read := r.payload tier identity version
      ∃ k, StopsAt (response read store) (max attempts 1) k ∧ createReading r see attempts tier identity version store =
        (conclude tier identity version (k + 1) (see (afterReads read (k + 1) store)) (response read store k),
          afterReads read (k + 1) store)) ∧
      ∀ (s : Scene) (store : StrategyStore), s.world.store? = some store →
        let attempts := s.gateway.config.factory.storeAttempts
        (createFromStore tier identity version).run s =
          (createReading .ofStore s.withStore attempts tier identity version store).1 ∧
        ((createFromStore tier identity version).run s).2.world.store? = some { store with
          reads := store.reads + min (store.failures + 1) (max attempts 1)
          failures := store.failures - min store.failures (max attempts 1) } := by
  refine ⟨fun σ r see attempts store => createReading_exact r see attempts tier identity version store, fun s store held => ?_⟩
  have request := createFromStore_eq held stored identity version
  refine ⟨request, ?_⟩
  obtain ⟨k, stops, ran⟩ := createReading_exact .ofStore s.withStore s.gateway.config.factory.storeAttempts tier identity version
    store
  have reads := stops.ofStore stored
  rw [request, ran, store?_conclude, afterReads_ofStore stored, reads]
  have met : store.failures - min (store.failures + 1) (max s.gateway.config.factory.storeAttempts 1) =
      store.failures - min store.failures (max s.gateway.config.factory.storeAttempts 1) := by omega
  rw [Scene.withStore, met]

/-- Two failures that three attempts get over. -/
theorem createFromStore_exact_retried :
    let store : StrategyStore := (StrategyStore.empty.putConfig "momentum" []).failNext 2
    let s : Scene := ⟨.new .standard, ⟨none, some store, 0⟩, []⟩
    Tier.configured ≠ .predefined ∧ s.world.store? = some store ∧
      ((createFromStore .configured "momentum" 1).run s).2.world.store? = some { store with reads := 3, failures := 0 } := by
  intro store s
  have exact' := createFromStore_exact .configured (by decide) "momentum" 1
  exact ⟨by decide, rfl, (exact'.2 s store rfl).2⟩

end Act
end StrategyHost
