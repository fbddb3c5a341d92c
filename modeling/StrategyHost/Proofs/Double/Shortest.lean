import StrategyHost.Proofs.Double.Interval

/-! # The shortest decimal rounds to its double

Seventeen digits always suffice, so the search for a short decimal ends in the rounding interval. Main statement:
`Parts.shortest_injective`, the decimal of a double tells it from every other. -/

namespace StrategyHost.Double

def Scientific.value (s : Scientific) : ℚ := s.digits * 10 ^ s.exponent

/-! ### The leading digit -/

theorem floorLog_le (n d bound : ℕ) : floorLog n d bound = 0 ∨ d * 10 ^ floorLog n d bound ≤ n := by
  fun_induction floorLog n d bound with
  | case1 => exact .inl rfl
  | case2 k h => exact .inr h
  | case3 k h ih => exact ih

theorem lt_floorLog_succ (n d bound : ℕ) (h : n < d * 10 ^ (bound + 1)) : n < d * 10 ^ (floorLog n d bound + 1) := by
  fun_induction floorLog n d bound with
  | case1 => exact h
  | case2 => exact h
  | case3 k hk ih => exact ih (not_le.1 hk)

theorem lt_ten_pow_log (n : ℕ) : n < 10 ^ (n.log2 / 3 + 1 + 1) :=
  calc n < 2 ^ (n.log2 + 1) := Nat.lt_log2_self
    _ ≤ 2 ^ (3 * (n.log2 / 3 + 1 + 1)) := Nat.pow_le_pow_right (by decide) (by omega)
    _ = 8 ^ (n.log2 / 3 + 1 + 1) := by rw [Nat.pow_mul]
    _ ≤ 10 ^ (n.log2 / 3 + 1 + 1) := Nat.pow_le_pow_left (by decide) _

theorem leadingExponent_le {a : ℕ} (ha : 0 < a) (e : ℤ) : (10 : ℚ) ^ leadingExponent a e ≤ a * 2 ^ e := by
  have hf : 0 < (scales e 0).1 := by simp only [scales]; positivity
  have hg : 0 < (scales e 0).2 := by simp only [scales]; positivity
  have haf : 0 < a * (scales e 0).1 := Nat.mul_pos ha hf
  -- both sides over the common denominator
  have hval : (a : ℚ) * 2 ^ e = (a * (scales e 0).1 : ℕ) / (scales e 0).2 := by
    rw [eq_div_iff (by positivity)]
    simp only [scales]
    push_cast
    rw [← zpow_mul_pow_neg (b := 2) (by norm_num) e]
    simp
    ring
  rw [hval]
  simp only [leadingExponent]
  generalize a * (scales e 0).1 = n at *
  generalize (scales e 0).2 = d at *
  split
  · rename_i h
    rw [le_div_iff₀ (by exact_mod_cast hg), zpow_natCast]
    rcases floorLog_le n d (n.log2 / 3 + 1) with zero | le
    · rw [zero]; simpa using h
    · rw [mul_comm]; exact_mod_cast le
  · split
    · rename_i h
      rw [zpow_neg, zpow_natCast, le_div_iff₀ (by exact_mod_cast hg), inv_mul_le_iff₀ (by positivity), mul_comm]
      exact_mod_cast h.le
    · have lt := lt_floorLog_succ d n (d.log2 / 3 + 1)
        (lt_of_lt_of_le (lt_ten_pow_log d) (Nat.le_mul_of_pos_left _ haf))
      rw [zpow_neg, le_div_iff₀ (by exact_mod_cast hg), inv_mul_le_iff₀ (by positivity), mul_comm]
      exact_mod_cast lt.le

/-! ### The search -/

/-- The multiple of `10 ^ u` that lies nearer to the middle; of two the even one. -/
def Interval.nearer (i : Interval) (u : ℤ) : ℕ :=
  let n := i.middle * (scales i.exponent u).1
  let d := (scales i.exponent u).2
  if 2 * n < (2 * (n / d) + 1) * d ∨ (2 * n = (2 * (n / d) + 1) * d ∧ n / d % 2 = 0) then n / d else n / d + 1

def Interval.farther (i : Interval) (u : ℤ) : ℕ :=
  let below := i.middle * (scales i.exponent u).1 / (scales i.exponent u).2
  if i.nearer u = below then below + 1 else below

theorem Interval.onGrid?_eq (i : Interval) (u : ℤ) : i.onGrid? u =
    if i.nearer u ≠ 0 ∧ i.contains (i.nearer u) u then some (i.nearer u)
    else if i.farther u ≠ 0 ∧ i.contains (i.farther u) u then some (i.farther u) else none := rfl

theorem Interval.onGrid?_contains {i : Interval} {u : ℤ} {d : ℕ} (h : i.onGrid? u = some d) :
    d ≠ 0 ∧ i.contains d u = true := by
  rw [onGrid?_eq] at h
  split at h
  · cases h; assumption
  split at h
  · cases h; assumption
  · cases h

theorem Interval.nearer_close (i : Interval) (u : ℤ) :
    2 * (i.nearer u * (scales i.exponent u).2) ≤ 2 * (i.middle * (scales i.exponent u).1) + (scales i.exponent u).2 ∧
      2 * (i.middle * (scales i.exponent u).1) ≤
        2 * (i.nearer u * (scales i.exponent u).2) + (scales i.exponent u).2 := by
  have hd : 0 < (scales i.exponent u).2 := by simp only [scales]; positivity
  simp only [nearer]
  generalize i.middle * (scales i.exponent u).1 = n
  generalize (scales i.exponent u).2 = d at *
  have div := Nat.div_add_mod n d
  have rem := Nat.mod_lt n hd
  rw [Nat.mul_comm] at div
  have half : (2 * (n / d) + 1) * d = 2 * (n / d * d) + d := by ring
  have next : (n / d + 1) * d = n / d * d + d := Nat.succ_mul _ _
  split <;> constructor <;> omega

/-- On a grid whose step is less than twice the distance to either end, the nearer neighbour lies in the interval. -/
theorem Interval.onGrid?_isSome {i : Interval} {u : ℤ} (hu : (scales i.exponent u).2 < i.middle * (scales i.exponent u).1)
    (low : 2 * (i.low * (scales i.exponent u).1) + (scales i.exponent u).2 < 2 * (i.middle * (scales i.exponent u).1))
    (high : 2 * (i.middle * (scales i.exponent u).1) + (scales i.exponent u).2 < 2 * (i.high * (scales i.exponent u).1)) :
    (i.onGrid? u).isSome := by
  obtain ⟨above, below⟩ := i.nearer_close u
  have nonzero : i.nearer u ≠ 0 := fun zero => by rw [zero] at below; omega
  have inside : i.contains (i.nearer u) u = true := by
    simp only [contains]
    split <;> rw [decide_eq_true_iff] <;> omega
  rw [onGrid?_eq, if_pos ⟨nonzero, inside⟩]
  rfl

theorem Interval.search_contains {i : Interval} {lead : ℤ} (last : (i.onGrid? (lead - 16)).isSome) (left : ℕ) :
    (i.search lead left).digits ≠ 0 ∧ i.contains (i.search lead left).digits (i.search lead left).exponent = true := by
  fun_induction Interval.search i lead left with
  | case1 =>
    obtain ⟨d, hd⟩ := Option.isSome_iff_exists.1 last
    rw [hd]
    exact onGrid?_contains hd
  | case2 left u d hd => exact onGrid?_contains hd
  | case3 left u hd ih => exact ih

theorem Scientific.value_strip (s : Scientific) (fuel : ℕ) : (s.strip fuel).value = s.value := by
  fun_induction Scientific.strip s fuel with
  | case1 => rfl
  | case2 s fuel h ih =>
    rw [ih]
    have hd : (s.digits : ℚ) = (s.digits / 10 : ℕ) * 10 := by exact_mod_cast (by omega : s.digits = s.digits / 10 * 10)
    simp only [value]
    rw [hd, zpow_add_one₀ (by norm_num)]
    ring
  | case3 => rfl

/-! ### The shortest decimal -/

namespace Parts
variable {p q : Parts}

/-- Seventeen digits suffice: a step of the last grid is less than the least distance to an end of the interval. -/
theorem onGrid?_last (hp : p.IsCanonical) (hm : 0 < p.mantissa) :
    (p.interval.onGrid? (leadingExponent p.interval.middle p.interval.exponent - 16)).isSome := by
  set i := p.interval with hi
  set u := leadingExponent i.middle i.exponent - 16 with hu
  have hmid : i.middle = 4 * p.mantissa := rfl
  have lead := leadingExponent_le (a := i.middle) (by omega) i.exponent
  have fine : 10 ^ 16 * (scales i.exponent u).2 ≤ i.middle * (scales i.exponent u).1 := by
    rw [← decimal_le_binary_iff]
    refine le_trans (le_of_eq ?_) lead
    rw [show leadingExponent i.middle i.exponent = 16 + u by omega, zpow_add₀ (by norm_num)]
    norm_num
  have hlt := hp.mantissa_lt
  have hlow : i.low + 2 = i.middle ∨ p.mantissa = 2 ^ 52 ∧ i.low + 1 = i.middle := by
    rw [hi]
    simp only [interval]
    split <;> omega
  have hhigh : i.high = i.middle + 2 := rfl
  have bound : p.mantissa * (scales i.exponent u).1 ≤ (2 ^ 53 - 1) * (scales i.exponent u).1 :=
    Nat.mul_le_mul_right _ (by omega)
  have pos : 0 < (scales i.exponent u).1 := by simp only [scales]; positivity
  have upper : i.high * (scales i.exponent u).1 = i.middle * (scales i.exponent u).1 + 2 * (scales i.exponent u).1 := by
    rw [hhigh, Nat.add_mul]
  have middle : i.middle * (scales i.exponent u).1 = 4 * (p.mantissa * (scales i.exponent u).1) := by
    rw [hmid, Nat.mul_assoc]
  have nonzero := Nat.mul_pos hm pos
  refine Interval.onGrid?_isSome (by omega) ?_ (by omega)
  rcases hlow with two | ⟨power, one⟩
  · have lower := congrArg (· * (scales i.exponent u).1) two
    simp only [Nat.add_mul] at lower
    omega
  · have lower := congrArg (· * (scales i.exponent u).1) one
    simp only [Nat.add_mul] at lower
    rw [power] at bound middle
    omega

theorem holds_shortest (hp : p.IsCanonical) (hm : 0 < p.mantissa) : p.interval.Holds p.shortest.value := by
  obtain ⟨-, found⟩ := Interval.search_contains (onGrid?_last hp hm) 16
  rw [shortest, if_neg (by omega), Scientific.value_strip]
  exact (Interval.contains_iff _ _ _).1 found

/-- The decimal that is printed for a double tells it from every other. -/
theorem shortest_injective (hp : p.IsCanonical) (hq : q.IsCanonical) (h : p.shortest.value = q.shortest.value) :
    p = q := by
  rcases Nat.eq_zero_or_pos p.mantissa with hp0 | hp0 <;> rcases Nat.eq_zero_or_pos q.mantissa with hq0 | hq0
  · have := hp.full; have := hq.full; have := hp.exponent_ge; have := hq.exponent_ge
    cases p; cases q; simp_all; omega
  · have zero : p.shortest.value = 0 := by simp [shortest, hp0, Scientific.value]
    exact absurd (h ▸ zero) (ne_of_gt (pos_of_holds hq0 (holds_shortest hq hq0)))
  · have zero : q.shortest.value = 0 := by simp [shortest, hq0, Scientific.value]
    exact absurd (h ▸ zero) (ne_of_gt (pos_of_holds hp0 (holds_shortest hp hp0)))
  · exact eq_of_holds hp hq (holds_shortest hp hp0) (h ▸ holds_shortest hq hq0)

end Parts

end StrategyHost.Double
