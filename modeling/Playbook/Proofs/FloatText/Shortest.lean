import Playbook.Proofs.FloatText.Rounding

/-!
# The shortest decimal of a float

The decimal that is written for a float lies in the interval of the float. Seventeen digits always
suffice: the grid is then so fine that the point nearest to the float is not as far away as the
midpoints to its neighbours.
-/

namespace Playbook.Decimal

/-- The number that a point is. -/
def Point.value (p : Point) : ℚ :=
  p.significand * 10 ^ p.exponent

theorem Point.value_dropZeros (fuel : Nat) (p : Point) : (p.dropZeros fuel).value = p.value := by
  induction fuel generalizing p with
  | zero => rfl
  | succ fuel ih =>
    rw [dropZeros]
    split
    next hzero =>
      rw [Bool.and_eq_true, beq_iff_eq] at hzero
      obtain ⟨tens, htens⟩ := Nat.dvd_of_mod_eq_zero hzero.2
      rw [ih, value, value, htens, Nat.mul_div_cancel_left tens (by decide),
        zpow_add_one₀ (by norm_num)]
      push_cast
      ring
    next => rfl

namespace Interval

variable {i : Interval} {exponent : Int}

/-- The number in the middle of an interval. -/
def middle (i : Interval) : ℚ :=
  (i.value : ℚ) / i.denominator

/-- The two ways to write a power of ten with natural numbers. -/
theorem ten_pow_toNat (exponent : Int) :
    ((Nat.pow 10 exponent.toNat : Nat) : ℚ) =
      10 ^ exponent * (Nat.pow 10 (-exponent).toNat : Nat) := by
  have hpow (n : Nat) : ((Nat.pow 10 n : Nat) : ℚ) = 10 ^ (n : Int) := by
    rw [zpow_natCast]
    exact Nat.cast_pow 10 n
  rw [hpow, hpow, ← zpow_add₀ (by norm_num)]
  congr 1
  omega

theorem scale_pos (exponent : Int) : (0 : ℚ) < (Nat.pow 10 (-exponent).toNat : Nat) :=
  Nat.cast_pos.2 (Nat.pow_pos (by decide))

/-- A point of a decimal grid, written with natural numbers. -/
theorem cast_grid (k : Nat) :
    ((k * (Nat.pow 10 exponent.toNat * i.denominator) : Nat) : ℚ) =
      k * 10 ^ exponent * i.denominator * (Nat.pow 10 (-exponent).toNat : Nat) := by
  rw [Nat.cast_mul, Nat.cast_mul, ten_pow_toNat]
  ring

/-- A point of a decimal grid and an end of an interval are compared with natural numbers. -/
theorem grid_le_iff (k bound : Nat) :
    k * (Nat.pow 10 exponent.toNat * i.denominator) ≤ bound * Nat.pow 10 (-exponent).toNat ↔
      (k * 10 ^ exponent : ℚ) * i.denominator ≤ bound := by
  rw [← Nat.cast_le (α := ℚ), cast_grid, Nat.cast_mul bound,
    mul_le_mul_iff_of_pos_right (scale_pos exponent)]

theorem le_grid_iff (k bound : Nat) :
    bound * Nat.pow 10 (-exponent).toNat ≤ k * (Nat.pow 10 exponent.toNat * i.denominator) ↔
      (bound : ℚ) ≤ k * 10 ^ exponent * i.denominator := by
  rw [← Nat.cast_le (α := ℚ), cast_grid, Nat.cast_mul bound,
    mul_le_mul_iff_of_pos_right (scale_pos exponent)]

/-- Whether a point of a decimal grid lies in an interval is decided with natural numbers. -/
theorem contains_iff (k : Nat) :
    i.contains (k * (Nat.pow 10 exponent.toNat * i.denominator)) (Nat.pow 10 (-exponent).toNat) =
        true ↔
      i.Holds (k * 10 ^ exponent) := by
  rw [contains]
  split
  next hclosed =>
    rw [Bool.and_eq_true, decide_eq_true_eq, decide_eq_true_eq, grid_le_iff, le_grid_iff]
    constructor
    · rintro ⟨hlow, hhigh⟩
      exact ⟨hlow, hhigh, fun hopen ↦ by simp [hopen] at hclosed⟩
    · rintro ⟨hlow, hhigh, -⟩
      exact ⟨hlow, hhigh⟩
  next hopen =>
    rw [Bool.and_eq_true, decide_eq_true_eq, decide_eq_true_eq, ← not_le, ← not_le, grid_le_iff,
      le_grid_iff, not_le, not_le]
    constructor
    · rintro ⟨hlow, hhigh⟩
      exact ⟨hlow.le, hhigh.le, fun _ ↦ ⟨hlow, hhigh⟩⟩
    · rintro ⟨-, -, hinside⟩
      exact hinside (Bool.eq_false_of_not_eq_true hopen)

theorem holds_onGrid {p : Point} (h : i.onGrid? exponent = some p) : i.Holds p.value := by
  simp only [onGrid?] at h
  split at h
  next hbelow =>
    rw [Bool.and_eq_true, contains_iff] at hbelow
    rw [← Option.some.inj h]
    exact hbelow.1
  next =>
    split at h
    next habove =>
      rw [← Option.some.inj h]
      exact (contains_iff _).1 habove
    next => cases h

/-- The middle of an interval lies between two neighbours on a grid. -/
theorem between_grid (hdenominator : 0 < i.denominator) (exponent : Int) {below : Nat}
    (hbelow : below = i.value * Nat.pow 10 (-exponent).toNat /
      (Nat.pow 10 exponent.toNat * i.denominator)) :
    (below * 10 ^ exponent : ℚ) ≤ i.middle ∧ i.middle < (below + 1 : Nat) * 10 ^ exponent := by
  have hunit : 0 < Nat.pow 10 exponent.toNat * i.denominator :=
    Nat.mul_pos (Nat.pow_pos (by decide)) hdenominator
  have hdenominator' : (0 : ℚ) < i.denominator := Nat.cast_pos.2 hdenominator
  rw [middle, le_div_iff₀ hdenominator', div_lt_iff₀ hdenominator', ← not_le, ← grid_le_iff,
    ← grid_le_iff, not_le, hbelow]
  exact ⟨Nat.div_mul_le_self _ _, Nat.lt_mul_of_div_lt (Nat.lt_succ_self _) hunit⟩

/-- A grid has a point in an interval that reaches half a step of the grid in both directions. -/
theorem isSome_onGrid (hdenominator : 0 < i.denominator)
    (hnear : ∀ r : ℚ, |r - i.middle| ≤ 10 ^ exponent / 2 → i.Holds r) :
    (i.onGrid? exponent).isSome = true := by
  simp only [onGrid?]
  generalize hbelow : i.value * Nat.pow 10 (-exponent).toNat /
    (Nat.pow 10 exponent.toNat * i.denominator) = below
  obtain ⟨hle, hlt⟩ := between_grid hdenominator exponent hbelow.symm
  have hstep : ((below + 1 : Nat) * 10 ^ exponent : ℚ) = below * 10 ^ exponent + 10 ^ exponent := by
    push_cast
    ring
  have heither : i.Holds (below * 10 ^ exponent) ∨ i.Holds ((below + 1 : Nat) * 10 ^ exponent) := by
    by_cases hhalf : i.middle - below * 10 ^ exponent ≤ 10 ^ exponent / 2
    · refine .inl (hnear _ ?_)
      rw [abs_sub_comm, abs_of_nonneg (sub_nonneg.2 hle)]
      exact hhalf
    · refine .inr (hnear _ ?_)
      rw [abs_of_nonneg (sub_nonneg.2 hlt.le), hstep]
      linarith
  rw [← contains_iff, ← contains_iff] at heither
  cases habove : i.contains ((below + 1) * (Nat.pow 10 exponent.toNat * i.denominator))
      (Nat.pow 10 (-exponent).toNat) with
  | true =>
    rw [if_pos rfl]
    split <;> rfl
  | false =>
    rw [habove] at heither
    rw [heither.resolve_right Bool.false_ne_true]
    rfl

theorem lt_ten_pow_digitCount (n : Nat) : n < 10 ^ digitCount n :=
  (Nat.length_toDigits_le_iff (by decide) Nat.length_toDigits_pos).1 le_rfl

theorem ten_pow_digitCount_le {n : Nat} (h : 0 < n) : 10 ^ (digitCount n - 1) ≤ n := by
  by_cases hone : digitCount n - 1 = 0
  · rw [hone]
    exact h
  · have hshort : ¬ digitCount n ≤ digitCount n - 1 := by omega
    have hcount := @Nat.length_toDigits_le_iff 10 n _ (by decide) (Nat.pos_of_ne_zero hone)
    exact Nat.le_of_not_lt (mt hcount.2 hshort)

/-- The magnitude of an interval says how many digits its middle has before the point. -/
theorem le_middle (hvalue : 0 < i.value) (hdenominator : 0 < i.denominator) :
    (10 : ℚ) ^ (i.magnitude - 1) ≤ i.middle := by
  have hvalue' : (0 : ℚ) < i.value := Nat.cast_pos.2 hvalue
  have hdenominator' : (0 : ℚ) < i.denominator := Nat.cast_pos.2 hdenominator
  rw [magnitude, middle, le_div_iff₀ hdenominator']
  split
  next hlarge =>
    have hwhole : 0 < i.value / i.denominator := Nat.div_pos hlarge hdenominator
    have hcount : (digitCount (i.value / i.denominator) : Int) - 1 =
        (digitCount (i.value / i.denominator) - 1 : Nat) := by
      have hpos : 0 < digitCount (i.value / i.denominator) := Nat.length_toDigits_pos
      omega
    have hmul : 10 ^ (digitCount (i.value / i.denominator) - 1) * i.denominator ≤ i.value :=
      (Nat.mul_le_mul_right _ (ten_pow_digitCount_le hwhole)).trans (Nat.div_mul_le_self _ _)
    rw [hcount, zpow_natCast]
    exact_mod_cast hmul
  next hsmall =>
    generalize hcount : digitCount ((i.denominator + i.value - 1) / i.value - 1) = count
    have hbound : i.denominator ≤ i.value * 10 ^ count := by
      have hcover := Nat.lt_mul_div_succ (i.denominator + i.value - 1) hvalue
      have hcount := hcount ▸
        lt_ten_pow_digitCount ((i.denominator + i.value - 1) / i.value - 1)
      generalize (i.denominator + i.value - 1) / i.value = parts at hcover hcount
      have hparts : i.value * parts ≤ i.value * 10 ^ count :=
        Nat.mul_le_mul_left _ (by omega)
      rw [Nat.mul_add] at hcover
      omega
    have hexponent : 1 - (count : Int) - 1 = -count := by omega
    rw [hexponent, zpow_neg, zpow_natCast, inv_mul_le_iff₀ (by positivity)]
    rw [mul_comm]
    exact_mod_cast hbound

end Interval

namespace Binary

variable {b : Binary}

/-- The number that a float is. -/
def number (b : Binary) : ℚ :=
  b.mantissa * 2 ^ b.exponent

theorem middle_interval (b : Binary) : b.interval.middle = b.number := by
  have hvalue : b.interval.value = 4 * b.mantissa * 2 ^ b.exponent.toNat := rfl
  have hdown : (0 : ℚ) < (2 ^ (-b.exponent).toNat : Nat) := by positivity
  rw [Interval.middle, interval_denominator, hvalue, Nat.cast_mul, two_pow_toNat, number]
  push_cast at hdown ⊢
  field_simp

/-- The interval reaches a quarter of a unit in the last place in both directions, and a half of
one unless the float is a power of two. -/
theorem holds_of_near (hb : b.Wellformed) {r : ℚ}
    (h : 4 * |r - b.number| < b.gap * 2 ^ b.exponent) : b.interval.Holds r := by
  have hunit : (0 : ℚ) < 2 ^ b.exponent := by positivity
  have hgap := b.gap_le
  have hunits : |r / 2 ^ b.exponent - b.mantissa| < b.gap / 4 := by
    calc |r / 2 ^ b.exponent - b.mantissa|
      _ = |(r - b.number) / 2 ^ b.exponent| := by
        rw [sub_div, number, mul_div_cancel_right₀ _ hunit.ne']
      _ = |r - b.number| / 2 ^ b.exponent := by rw [abs_div, abs_of_pos hunit]
      _ < b.gap / 4 := by
        rw [div_lt_iff₀ hunit]
        linarith
  obtain ⟨hlow, hhigh⟩ := abs_lt.1 hunits
  refine (holds_iff hb).2 ⟨?_, ?_, fun _ ↦ ⟨?_, ?_⟩⟩ <;> linarith

/-- Seventeen digits are finer than the distance to the next float. -/
theorem mantissa_lt_gap (hb : b.Wellformed) : 2 * (b.mantissa : ℚ) < b.gap * 10 ^ 16 := by
  rw [gap]
  split
  next hpower =>
    rw [(hb.power.1 hpower).1]
    norm_num
  next =>
    have hlt : (b.mantissa : ℚ) < 2 ^ 53 := by exact_mod_cast hb.lt
    linarith

/-- The decimal of a positive float, before the zeros at its end are dropped. -/
def candidate (b : Binary) : Point :=
  ((List.range 17).findSome? fun n : Nat ↦
    b.interval.onGrid? (b.interval.magnitude - (n + 1))).getD ⟨0, 0⟩

theorem isSome_onGrid (hb : b.Wellformed) :
    (b.interval.onGrid? (b.interval.magnitude - 17)).isSome = true := by
  have hpos := hb.pos
  have hunit : (0 : ℚ) < 2 ^ b.exponent := by positivity
  have hvalue : 0 < b.interval.value :=
    Nat.mul_pos (Nat.mul_pos (by decide) hpos) (Nat.pow_pos two_pos)
  have hdenominator : 0 < b.interval.denominator :=
    Nat.mul_pos (by decide) (Nat.pow_pos two_pos)
  have hstep : (10 : ℚ) ^ (b.interval.magnitude - 17) ≤ b.number / 10 ^ 16 := by
    rw [← middle_interval]
    calc (10 : ℚ) ^ (b.interval.magnitude - 17)
      _ = 10 ^ (b.interval.magnitude - 1) / 10 ^ (16 : Int) := by
        rw [← zpow_sub₀ (by norm_num)]
        congr 1
        omega
      _ ≤ b.interval.middle / 10 ^ 16 :=
        div_le_div_of_nonneg_right (Interval.le_middle hvalue hdenominator) (by positivity)
  apply Interval.isSome_onGrid hdenominator
  intro r hr
  rw [middle_interval] at hr
  apply holds_of_near hb
  calc 4 * |r - b.number|
    _ ≤ 2 * b.mantissa / 10 ^ 16 * 2 ^ b.exponent := by
      rw [number] at hstep hr ⊢
      linarith
    _ < b.gap * 2 ^ b.exponent := by
      apply mul_lt_mul_of_pos_right _ hunit
      rw [div_lt_iff₀ (by positivity)]
      exact mantissa_lt_gap hb

theorem holds_candidate (hb : b.Wellformed) : b.interval.Holds b.candidate.value := by
  rw [candidate]
  cases hhit : (List.range 17).findSome? fun n : Nat ↦
      b.interval.onGrid? (b.interval.magnitude - (n + 1)) with
  | some p =>
    obtain ⟨n, -, hp⟩ := List.exists_of_findSome?_eq_some hhit
    exact Interval.holds_onGrid hp
  | none =>
    have hmiss := List.findSome?_eq_none_iff.1 hhit 16 (by decide)
    have hsome := isSome_onGrid hb
    rw [show b.interval.magnitude - 17 = b.interval.magnitude - ((16 : Nat) + 1) from rfl,
      hmiss] at hsome
    cases hsome

end Binary

end Playbook.Decimal
