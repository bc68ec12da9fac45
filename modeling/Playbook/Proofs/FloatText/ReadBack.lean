import Playbook.Proofs.FloatText.Fields

/-!
# Reading the shortest decimal back

Whatever significand and exponent write the shortest decimal of a float, with zeros at the end or
without, reading them gives the magnitude of the float again.
-/

namespace Playbook.Decimal

namespace Binary

variable {b : Binary} {significand : Nat} {exponent : Int}

/-- Three doublings are less than a factor of ten. -/
theorem two_pow_le_ten_pow (n : Nat) : (2 : ℚ) ^ (3 * n) ≤ 10 ^ n := by
  rw [pow_mul]
  exact pow_le_pow_left₀ (by norm_num) (by norm_num) n

/-- Floats are far from having more than four hundred digits before or behind the point. -/
theorem number_bounds (hb : b.Wellformed) {r : ℚ} (h : b.interval.Holds r) :
    (10 : ℚ) ^ (-400 : Int) ≤ r ∧ r < 10 ^ (400 : Int) := by
  obtain ⟨hlow, hhigh, -⟩ := (holds_iff hb).1 h
  have hunit : (0 : ℚ) < 2 ^ b.exponent := by positivity
  have hpos : (1 : ℚ) ≤ b.mantissa := by exact_mod_cast hb.pos
  have hlt : (b.mantissa : ℚ) < 9007199254740992 := by exact_mod_cast hb.lt
  have hgap := b.gap_le
  have hunits : r = r / 2 ^ b.exponent * 2 ^ b.exponent := by field_simp
  constructor
  · calc (10 : ℚ) ^ (-400 : Int)
      _ ≤ 1 / 2 * 2 ^ (-1074 : Int) := by
        have hsmall : (2 : ℚ) ^ 1075 ≤ 10 ^ 400 :=
          calc (2 : ℚ) ^ 1075
            _ ≤ 2 ^ (3 * 359) := pow_le_pow_right₀ (by norm_num) (by norm_num)
            _ ≤ 10 ^ 359 := two_pow_le_ten_pow 359
            _ ≤ 10 ^ 400 := pow_le_pow_right₀ (by norm_num) (by norm_num)
        rw [one_div, ← zpow_neg_one, ← zpow_add₀ two_ne_zero]
        exact inv_anti₀ (by positivity) hsmall
      _ ≤ r / 2 ^ b.exponent * 2 ^ b.exponent :=
        mul_le_mul (by linarith) (zpow_le_zpow_right₀ (by norm_num) hb.least) (by positivity)
          (by linarith)
      _ = r := hunits.symm
  · calc r
      _ = r / 2 ^ b.exponent * 2 ^ b.exponent := hunits
      _ ≤ 9007199254740993 * 2 ^ (971 : Int) :=
        mul_le_mul (by linarith) (zpow_le_zpow_right₀ (by norm_num) hb.greatest) hunit.le
          (by norm_num)
      _ < 10 ^ (400 : Int) := by
        calc (9007199254740993 : ℚ) * 2 ^ (971 : Int)
          _ < 10 ^ 16 * 10 ^ 324 := by
            have hlarge : (2 : ℚ) ^ 971 ≤ 10 ^ 324 :=
              calc (2 : ℚ) ^ 971
                _ ≤ 2 ^ (3 * 324) := pow_le_pow_right₀ (by norm_num) (by norm_num)
                _ ≤ 10 ^ 324 := two_pow_le_ten_pow 324
            exact mul_lt_mul (by norm_num) hlarge (by positivity) (by positivity)
          _ ≤ 10 ^ 400 := by
            rw [← pow_add]
            exact pow_le_pow_right₀ (by norm_num) (by norm_num)

/-- The digits of a number below a power of ten end before its place. -/
theorem digitCount_add_le {bound : Int} (hsome : 0 < significand)
    (h : (significand * 10 ^ exponent : ℚ) < 10 ^ bound) :
    (digitCount significand : Int) + exponent ≤ bound := by
  have hcount : 0 < digitCount significand := Nat.length_toDigits_pos
  by_contra hmany
  have hlow : (10 : ℚ) ^ ((digitCount significand : Int) - 1) ≤ significand := by
    have hcast : (digitCount significand : Int) - 1 = (digitCount significand - 1 : Nat) := by
      omega
    rw [hcast, zpow_natCast]
    exact_mod_cast Interval.ten_pow_digitCount_le hsome
  have hlarge : (10 : ℚ) ^ bound ≤ significand * 10 ^ exponent :=
    calc (10 : ℚ) ^ bound
      _ ≤ 10 ^ ((digitCount significand : Int) - 1 + exponent) :=
        zpow_le_zpow_right₀ (by norm_num) (by omega)
      _ = 10 ^ ((digitCount significand : Int) - 1) * 10 ^ exponent := zpow_add₀ (by norm_num) _ _
      _ ≤ significand * 10 ^ exponent := mul_le_mul_of_nonneg_right hlow (by positivity)
  exact absurd hlarge (not_le.2 h)

theorem lt_digitCount_add {bound : Int} (h : (10 : ℚ) ^ bound ≤ significand * 10 ^ exponent) :
    bound < digitCount significand + exponent := by
  have hhigh : (significand : ℚ) < 10 ^ (digitCount significand : Int) := by
    rw [zpow_natCast]
    exact_mod_cast Interval.lt_ten_pow_digitCount significand
  have hlt : (10 : ℚ) ^ bound < 10 ^ ((digitCount significand : Int) + exponent) :=
    calc (10 : ℚ) ^ bound
      _ ≤ significand * 10 ^ exponent := h
      _ < 10 ^ (digitCount significand : Int) * 10 ^ exponent :=
        mul_lt_mul_of_pos_right hhigh (by positivity)
      _ = 10 ^ ((digitCount significand : Int) + exponent) := (zpow_add₀ (by norm_num) _ _).symm
  exact (zpow_lt_zpow_iff_right₀ (by norm_num)).1 hlt

/-- A decimal from the interval around a float reads as that float. -/
theorem ofDecimal_of_holds (hb : b.Wellformed)
    (h : b.interval.Holds (significand * 10 ^ exponent)) :
    ofDecimal significand exponent = Float.ofBits (UInt64.ofNat b.bits) := by
  obtain ⟨hleast, hgreatest⟩ := number_bounds hb h
  have hsome : 0 < significand := by
    apply Nat.pos_of_ne_zero
    rintro rfl
    rw [Nat.cast_zero, zero_mul] at hleast
    exact absurd hleast (not_le.2 (by positivity))
  have hmany : ¬ (digitCount significand : Int) + exponent > 400 :=
    not_lt.2 (digitCount_add_le hsome hgreatest)
  have hfew : ¬ (digitCount significand : Int) + exponent < -400 :=
    not_lt.2 (lt_digitCount_add hleast).le
  have hnumerator : 0 < significand * Nat.pow 10 exponent.toNat :=
    Nat.mul_pos hsome (Nat.pow_pos (by decide))
  have hdenominator : 0 < Nat.pow 10 (-exponent).toNat := Nat.pow_pos (by decide)
  have hfraction : ((significand * Nat.pow 10 exponent.toNat : Nat) : ℚ) /
      (Nat.pow 10 (-exponent).toNat : Nat) = significand * 10 ^ exponent := by
    rw [div_eq_iff (Nat.cast_ne_zero.2 hdenominator.ne'), Nat.cast_mul, Interval.ten_pow_toNat]
    ring
  rw [← hfraction] at h
  rw [digitCount] at hmany hfew
  rw [ofDecimal, if_neg (by simpa using hsome.ne'), if_neg hmany, if_neg hfew, nearest,
    if_neg (by simpa using hnumerator.ne'), nearestBits_of_holds hb hnumerator hdenominator h]

end Binary

theorem shortest_of_mantissa_eq_zero {x : Float} (h : (Binary.ofFloat x).mantissa = 0) :
    shortest x = ⟨0, 0⟩ := by
  rw [shortest, if_pos (beq_iff_eq.2 h)]

theorem shortest_of_mantissa_ne_zero {x : Float} (h : (Binary.ofFloat x).mantissa ≠ 0) :
    shortest x = (Binary.ofFloat x).candidate.dropZeros 20 := by
  rw [shortest, if_neg (by simpa using h)]
  rfl

/-- The shortest decimal of a finite float, with any number of zeros at its end, reads as its
magnitude. -/
theorem withSign_ofDecimal {x : Float} (hfinite : x.isFinite = true) {significand : Nat}
    {exponent : Int} (h : (significand * 10 ^ exponent : ℚ) = (shortest x).value) :
    withSign (isNegative x) (ofDecimal significand exponent) = x := by
  by_cases hzero : (Binary.ofFloat x).mantissa = 0
  · have hnone : significand = 0 := by
      have hpower : (10 : ℚ) ^ exponent ≠ 0 := by positivity
      rw [shortest_of_mantissa_eq_zero hzero, Point.value, Nat.cast_zero, zero_mul] at h
      exact_mod_cast (mul_eq_zero.1 h).resolve_right hpower
    have hbits : x.toBits.toNat % 2 ^ 63 = 0 := by
      rw [ofFloat_eq] at hzero
      split at hzero
      next hfield =>
        dsimp only at hzero
        omega
      next => exact absurd hzero (Nat.succ_ne_zero _)
    have hmagnitude : ofDecimal significand exponent = Float.ofBits (UInt64.ofNat 0) := by
      rw [hnone]
      rfl
    rw [hmagnitude, ← hbits]
    exact withSign_ofBits hfinite
  · have hb := wellformed_ofFloat hfinite hzero
    rw [shortest_of_mantissa_ne_zero hzero, Point.value_dropZeros] at h
    rw [Binary.ofDecimal_of_holds hb (h ▸ Binary.holds_candidate hb), bits_ofFloat]
    exact withSign_ofBits hfinite

end Playbook.Decimal
