import Mathlib.Data.List.Induction
import Mathlib.Order.Bounds.Basic
import StrategyHost.Sandbox.Account

/-! # Runs of a memory account

The linear memory of a guest and what the host keeps for it are asked for in any order, and the one may shrink between requests
for the other. `ask_granted` and `ask_refused` say what one request does; sums saturate, but not below a limit that is one. Main
statement: `askAll_accounts`, for every run of requests. -/

namespace StrategyHost.MemoryAccount

/-- What is asked of an account: a linear memory of so many bytes in place of the present one, bytes that the host keeps, or
a table of so many elements. -/
inductive Ask where
  | grow (desired : ℕ)
  | reserve (bytes : ℕ)
  | table (elements : ℕ)
deriving DecidableEq

def Ask.IsMemory : Ask → Prop
  | table _ => False
  | _ => True

def ask (a : MemoryAccount) : Ask → Except Breach Bool × MemoryAccount
  | .grow desired => ((a.grow desired).1.map fun _ => true, (a.grow desired).2)
  | .reserve bytes => ((a.reserve bytes).1.map fun _ => true, (a.reserve bytes).2)
  | .table elements => (.ok (allowsTable elements), a)

def askAll (a : MemoryAccount) (asks : List Ask) : MemoryAccount := asks.foldl (fun a q => (a.ask q).2) a

def usage (a : MemoryAccount) : ℕ := a.linear + a.host

def wanted (a : MemoryAccount) : Ask → ℕ
  | .grow desired => desired + a.host
  | .reserve bytes => a.linear + (a.host + bytes)
  | .table _ => a.usage

section
variable {a : MemoryAccount} {q : Ask}

/-! ### One request -/

theorem lt_saturate {limit n : ℕ} (finite : limit < maxUInt64) : limit < Limits.saturate n ↔ limit < n := by
  unfold Limits.saturate
  omega

theorem lt_saturate_add {limit m n : ℕ} (finite : limit < maxUInt64) :
    limit < Limits.saturate (Limits.saturate m + n) ↔ limit < m + n := by
  unfold Limits.saturate
  omega

/-- A request for memory that would lead beyond the limit is refused, and only the breach is noted. -/
theorem ask_refused (finite : a.limit < maxUInt64) (memory : q.IsMemory) (beyond : a.limit < a.wanted q) :
    ∃ observed, a.limit < observed ∧
      a.ask q = (.error ⟨.memory, a.limit, observed⟩, { a with breach := some ⟨.memory, a.limit, observed⟩ }) := by
  cases q with
  | grow desired =>
    have refused : a.limit < Limits.saturate (desired + a.host) := (lt_saturate finite).2 beyond
    exact ⟨_, refused, by simp [ask, grow, refused, refuse, Except.map]⟩
  | reserve bytes =>
    have refused : a.limit < Limits.saturate (Limits.saturate (a.linear + a.host) + bytes) :=
      (lt_saturate_add finite).2 (beyond.trans_eq (Nat.add_assoc ..).symm)
    exact ⟨_, refused, by simp [ask, reserve, refused, refuse, Except.map]⟩
  | table => cases memory

/-- Any other is granted: what it asks for is in use then, and no breach is noted. -/
theorem ask_granted (finite : a.limit < maxUInt64) (memory : q.IsMemory) (fits : a.wanted q ≤ a.limit) :
    (a.ask q).1 = .ok true ∧ (a.ask q).2.limit = a.limit ∧ (a.ask q).2.usage = a.wanted q ∧
      (a.ask q).2.peak = max a.peak (a.wanted q) ∧ (a.ask q).2.breach = a.breach := by
  cases q with
  | grow desired =>
    have total : Limits.saturate (desired + a.host) = desired + a.host := Nat.min_eq_left (fits.trans finite.le)
    have granted : a.grow desired = (.ok (), { a with linear := desired, peak := max a.peak (desired + a.host) }) := by
      simp only [grow, total]
      exact if_neg fits.not_gt
    simp [ask, granted, usage, wanted, Except.map]
  | reserve bytes =>
    have fits : a.linear + (a.host + bytes) ≤ a.limit := fits
    have total : Limits.saturate (Limits.saturate (a.linear + a.host) + bytes) = a.linear + (a.host + bytes) := by
      unfold Limits.saturate
      omega
    have granted : a.reserve bytes =
        (.ok (), { a with host := a.host + bytes, peak := max a.peak (a.linear + (a.host + bytes)) }) := by
      simp only [reserve, total]
      exact if_neg fits.not_gt
    simp [ask, granted, usage, wanted, Except.map]
  | table => cases memory

end

/-! ### Runs -/

/-- An account within its limit that has kept the most that was in use. -/
structure Within (limit : ℕ) (a : MemoryAccount) : Prop where
  same : a.limit = limit
  used : a.usage ≤ limit
  kept : a.usage ≤ a.peak

section
variable {limit : ℕ} {a : MemoryAccount} (finite : limit < maxUInt64)
include finite

theorem Within.ask (h : a.Within limit) (q : Ask) :
    (a.ask q).2.Within limit ∧ (a.ask q).2.peak = max a.peak (a.ask q).2.usage := by
  obtain ⟨rfl, usage, peak⟩ := h
  by_cases memory : q.IsMemory
  · rcases Nat.lt_or_ge a.limit (a.wanted q) with beyond | fits
    · obtain ⟨observed, -, refused⟩ := ask_refused finite memory beyond
      rw [refused]
      exact ⟨⟨rfl, usage, peak⟩, (Nat.max_eq_left peak).symm⟩
    · obtain ⟨-, sameLimit, used, raised, -⟩ := ask_granted finite memory fits
      rw [raised, used]
      exact ⟨⟨sameLimit, used.trans_le fits, by rw [used, raised]; exact Nat.le_max_right _ _⟩, rfl⟩
  · cases q with
    | table elements => exact ⟨⟨rfl, usage, peak⟩, (Nat.max_eq_left peak).symm⟩
    | grow => exact absurd trivial memory
    | reserve => exact absurd trivial memory

omit finite in
theorem askAll_concat (asks : List Ask) (q : Ask) : a.askAll (asks ++ [q]) = ((a.askAll asks).ask q).2 := by
  rw [askAll, List.foldl_append]
  rfl

theorem within_askAll (asks : List Ask) : ((new limit).askAll asks).Within limit := by
  induction asks using List.reverseRecOn with
  | nil => exact ⟨rfl, Nat.zero_le _, Nat.le_refl _⟩
  | append_singleton asks q ih =>
    rw [askAll_concat]
    exact (ih.ask finite q).1

/-- What is in use behind each part of a run, from none of its requests to all of them. -/
def usages (limit : ℕ) (asks : List Ask) : Set ℕ := Set.range fun n => ((new limit).askAll (asks.take n)).usage

omit finite in
theorem usages_concat (asks : List Ask) (q : Ask) :
    usages limit (asks ++ [q]) = insert ((new limit).askAll (asks ++ [q])).usage (usages limit asks) := by
  ext m
  constructor
  · rintro ⟨n, rfl⟩
    rcases Nat.lt_or_ge asks.length n with all | part
    · left
      dsimp only
      rw [List.take_of_length_le (by rw [List.length_append]; exact all)]
    · right
      exact ⟨n, by dsimp only; rw [List.take_append_of_le_length part]⟩
  · rintro (rfl | ⟨n, rfl⟩)
    · exact ⟨(asks ++ [q]).length, by dsimp only; rw [List.take_length]⟩
    · refine ⟨min n asks.length, ?_⟩
      dsimp only
      rw [List.take_append_of_le_length (Nat.min_le_right _ _), ← List.take_eq_take_min]

theorem isGreatest_peak (asks : List Ask) : IsGreatest (usages limit asks) ((new limit).askAll asks).peak := by
  induction asks using List.reverseRecOn with
  | nil =>
    refine ⟨⟨0, rfl⟩, ?_⟩
    rintro _ ⟨n, rfl⟩
    simp [askAll, new, usage]
  | append_singleton asks q ih =>
    have step := ((within_askAll finite asks).ask finite q).2
    rw [← askAll_concat, max_comm] at step
    rw [usages_concat, step]
    exact ih.insert _

/-- Behind every run of requests no more is in use than the limit, and the peak is the most that ever was. The next request
for memory is refused just when it would lead beyond the limit: then the breach is noted, with what was asked for in all, and
nothing else. If it is granted, no breach is noted, and one for a table changes nothing. -/
theorem askAll_accounts (asks : List Ask) :
    let a := (new limit).askAll asks
    a.usage ≤ limit ∧ IsGreatest (usages limit asks) a.peak ∧
    (∀ elements, (a.ask (.table elements)).2 = a) ∧
    ∀ q : Ask, q.IsMemory →
      ((a.ask q).1.isOk = false ↔ limit < a.wanted q) ∧
      (∀ b, (a.ask q).1 = .error b → b.budget = .memory ∧ b.limit = limit ∧ limit < b.observed ∧
        (a.ask q).2 = { a with breach := some b }) ∧
      ∀ answer, (a.ask q).1 = .ok answer → (a.ask q).2.usage = a.wanted q ∧ (a.ask q).2.breach = a.breach := by
  intro a
  obtain ⟨same, used, -⟩ : a.Within limit := within_askAll finite asks
  refine ⟨used, isGreatest_peak finite asks, fun _ => rfl, fun q memory => ?_⟩
  have finite : a.limit < maxUInt64 := same ▸ finite
  rcases Nat.lt_or_ge a.limit (a.wanted q) with beyond | fits
  · obtain ⟨observed, seen, refused⟩ := ask_refused finite memory beyond
    rw [refused]
    refine ⟨⟨fun _ => same ▸ beyond, fun _ => rfl⟩, ?_, nofun⟩
    rintro b ⟨⟩
    exact ⟨rfl, same, same ▸ seen, rfl⟩
  · obtain ⟨granted, -, usage, -, breach⟩ := ask_granted finite memory fits
    rw [granted]
    refine ⟨⟨nofun, fun beyond => absurd fits (same ▸ beyond).not_ge⟩, nofun, fun _ _ => ⟨usage, breach⟩⟩

end

/-- A memory that has shrunk makes room for the host, but for no more than it gave back. -/
theorem askAll_accounts_shrunk : 131072 < maxUInt64 ∧
    let a := (new 131072).askAll [.grow 131072, .reserve 1, .grow 65536]
    a.usage ≤ 131072 ∧ (a.ask (.reserve 65536)).2.usage = 131072 ∧ (a.ask (.reserve 65537)).1.isOk = false := by
  have finite : 131072 < maxUInt64 := by decide
  obtain ⟨used, -, -, next⟩ := askAll_accounts finite [.grow 131072, .reserve 1, .grow 65536]
  refine ⟨finite, used, ((next (.reserve 65536) trivial).2.2 true ?_).1, (next (.reserve 65537) trivial).1.2 ?_⟩
  · rfl
  · decide

end StrategyHost.MemoryAccount
