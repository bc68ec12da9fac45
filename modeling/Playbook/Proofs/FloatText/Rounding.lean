import Mathlib.Algebra.Order.Field.Power
import Mathlib.Data.Int.Log
import Mathlib.Data.Rat.Floor
import Mathlib.Tactic.FieldSimp
import Mathlib.Tactic.Linarith
import Mathlib.Tactic.Positivity
import Playbook.Decimal.Shortest
import Playbook.Decimal.Reading

/-!
# Rounding to the nearest float

A positive float is the nearest one to every fraction between the midpoints to its neighbours, and
to the midpoints themselves if its mantissa is even. A fraction from there reads as that float.
-/

namespace Playbook.Decimal

/-! ## Scaled fractions -/

/-- A fraction in units of a power of two, as it is written with natural numbers only. -/
theorem scaled_fraction (numerator denominator : Nat) (exponent : Int) :
    ((numerator * Nat.pow 2 (-exponent).toNat : Nat) : ℚ) /
        ((denominator * Nat.pow 2 exponent.toNat : Nat) : ℚ) =
      (numerator : ℚ) / denominator / 2 ^ exponent := by
  have hpow (n : Nat) : ((Nat.pow 2 n : Nat) : ℚ) = 2 ^ (n : Int) := by
    rw [zpow_natCast]
    exact Nat.cast_pow 2 n
  have hparts : (exponent.toNat : Int) - (-exponent).toNat = exponent := by omega
  calc ((numerator * Nat.pow 2 (-exponent).toNat : Nat) : ℚ) /
        ((denominator * Nat.pow 2 exponent.toNat : Nat) : ℚ)
    _ = (numerator : ℚ) / denominator *
        (2 ^ ((-exponent).toNat : Int) / 2 ^ (exponent.toNat : Int)) := by
      rw [Nat.cast_mul, Nat.cast_mul, hpow, hpow, mul_div_mul_comm]
    _ = (numerator : ℚ) / denominator * (2 ^ exponent)⁻¹ := by
      rw [← zpow_sub₀ two_ne_zero, ← zpow_neg, ← hparts]
      congr 2
      omega
    _ = (numerator : ℚ) / denominator / 2 ^ exponent := rfl

/-- The integer nearest to a quotient, an even one if there are two. -/
theorem round_quotient {n d k : Nat} (hd : 0 < d) (hlow : 2 * k * d ≤ 2 * n + d)
    (hhigh : 2 * n ≤ 2 * k * d + d)
    (htie : k % 2 = 1 → 2 * k * d < 2 * n + d ∧ 2 * n < 2 * k * d + d) :
    (if 2 * (n % d) > d || (2 * (n % d) == d && n / d % 2 == 1) then n / d + 1 else n / d) = k := by
  have hparts : d * (n / d) + n % d = n := Nat.div_add_mod n d
  have hrest : n % d < d := Nat.mod_lt n hd
  have hle : n / d ≤ k := by
    have hmul : n / d * d < (k + 1) * d := by
      rw [Nat.add_mul, Nat.mul_comm (n / d)]
      have hassoc : 2 * k * d = 2 * (k * d) := Nat.mul_assoc 2 k d
      omega
    exact Nat.lt_succ_iff.1 (Nat.lt_of_mul_lt_mul_right hmul)
  have hge : k ≤ n / d + 1 := by
    have hmul : k * d < (n / d + 2) * d := by
      rw [Nat.add_mul, Nat.mul_comm (n / d)]
      have hassoc : 2 * k * d = 2 * (k * d) := Nat.mul_assoc 2 k d
      omega
    exact Nat.lt_succ_iff.1 (Nat.lt_of_mul_lt_mul_right hmul)
  rcases Nat.lt_or_ge (n / d) k with hup | hdown
  · obtain rfl : k = n / d + 1 := by omega
    have hassoc : 2 * (n / d + 1) * d = 2 * (d * (n / d)) + 2 * d := by ring
    rw [if_pos]
    rw [Bool.or_eq_true, Bool.and_eq_true, decide_eq_true_eq, beq_iff_eq, beq_iff_eq]
    omega
  · obtain rfl : k = n / d := by omega
    have hassoc : 2 * (n / d) * d = 2 * (d * (n / d)) := by ring
    rw [if_neg]
    rw [Bool.or_eq_true, Bool.and_eq_true, decide_eq_true_eq, beq_iff_eq, beq_iff_eq]
    omega

/-- A quotient is rounded to an integer that is within a half of it, if this is even in case it is
just a half away. -/
theorem roundScaled_eq {numerator denominator k : Nat} {exponent : Int} (hpos : 0 < denominator)
    (hlow : (2 * k - 1 : ℚ) ≤ 2 * ((numerator : ℚ) / denominator / 2 ^ exponent))
    (hhigh : 2 * ((numerator : ℚ) / denominator / 2 ^ exponent) ≤ 2 * k + 1)
    (htie : k % 2 = 1 → (2 * k - 1 : ℚ) < 2 * ((numerator : ℚ) / denominator / 2 ^ exponent) ∧
      2 * ((numerator : ℚ) / denominator / 2 ^ exponent) < 2 * k + 1) :
    roundScaled numerator denominator exponent = k := by
  rw [← scaled_fraction] at hlow hhigh htie
  rw [roundScaled]
  have hd : 0 < denominator * Nat.pow 2 exponent.toNat :=
    Nat.mul_pos hpos (Nat.pow_pos two_pos)
  generalize numerator * Nat.pow 2 (-exponent).toNat = n at *
  generalize denominator * Nat.pow 2 exponent.toNat = d at *
  have hd' : (0 : ℚ) < d := Nat.cast_pos.2 hd
  rw [← mul_div_assoc, le_div_iff₀ hd'] at hlow
  rw [← mul_div_assoc, div_le_iff₀ hd'] at hhigh
  rw [← mul_div_assoc, lt_div_iff₀ hd', div_lt_iff₀ hd'] at htie
  refine round_quotient hd ?_ ?_ fun hodd ↦ ⟨?_, ?_⟩
  · have hcast : (2 * k * d : ℚ) ≤ 2 * n + d := by linarith only [hlow]
    exact_mod_cast hcast
  · have hcast : (2 * n : ℚ) ≤ 2 * k * d + d := by linarith only [hhigh]
    exact_mod_cast hcast
  · have hcast : (2 * k * d : ℚ) < 2 * n + d := by linarith only [(htie hodd).1]
    exact_mod_cast hcast
  · have hcast : (2 * n : ℚ) < 2 * k * d + d := by linarith only [(htie hodd).2]
    exact_mod_cast hcast

/-- The difference of the binary logarithms of numerator and denominator is the logarithm of their
quotient or one more. -/
theorem log_bounds {n d : Nat} (hn : 0 < n) (hd : 0 < d) :
    (2 : ℚ) ^ ((n.log2 : Int) - d.log2 - 1) ≤ (n : ℚ) / d ∧
      (n : ℚ) / d < 2 ^ ((n.log2 : Int) - d.log2 + 1) := by
  have hd' : (0 : ℚ) < d := Nat.cast_pos.2 hd
  have hnlow : (2 : ℚ) ^ (n.log2 : Int) ≤ n := by
    rw [zpow_natCast]
    exact_mod_cast Nat.log2_self_le hn.ne'
  have hdlow : (2 : ℚ) ^ (d.log2 : Int) ≤ d := by
    rw [zpow_natCast]
    exact_mod_cast Nat.log2_self_le hd.ne'
  have hnhigh : (n : ℚ) < 2 ^ ((n.log2 : Int) + 1) := by
    exact_mod_cast Nat.lt_log2_self
  have hdhigh : (d : ℚ) < 2 ^ ((d.log2 : Int) + 1) := by
    exact_mod_cast Nat.lt_log2_self
  constructor
  · calc (2 : ℚ) ^ ((n.log2 : Int) - d.log2 - 1)
      _ = 2 ^ (n.log2 : Int) / 2 ^ ((d.log2 : Int) + 1) := by
        rw [← zpow_sub₀ two_ne_zero, sub_sub]
      _ ≤ (n : ℚ) / d := div_le_div₀ (Nat.cast_nonneg n) hnlow hd' hdhigh.le
  · calc (n : ℚ) / d
      _ < 2 ^ ((n.log2 : Int) + 1) / 2 ^ (d.log2 : Int) :=
        div_lt_div₀ hnhigh hdlow (by positivity) (by positivity)
      _ = 2 ^ ((n.log2 : Int) - d.log2 + 1) := by
        rw [← zpow_sub₀ two_ne_zero]
        congr 1
        omega

/-- The exponent for which a fraction has a mantissa of fifty-three bits. -/
theorem exponent_eq_log {n d : Nat} (hn : 0 < n) (hd : 0 < d) (guess : Int)
    (hguess : guess = n.log2 - d.log2 - 52) :
    (if n * Nat.pow 2 (-guess).toNat / (d * Nat.pow 2 guess.toNat) < Nat.pow 2 52
      then guess - 1 else guess) = Int.log 2 ((n : ℚ) / d) - 52 := by
  have hn' : (0 : ℚ) < n := Nat.cast_pos.2 hn
  have hd' : (0 : ℚ) < d := Nat.cast_pos.2 hd
  have hr : (0 : ℚ) < n / d := div_pos hn' hd'
  obtain ⟨hlow, hhigh⟩ := log_bounds hn hd
  have hlow : (n.log2 : Int) - d.log2 - 1 ≤ Int.log 2 ((n : ℚ) / d) :=
    (Int.zpow_le_iff_le_log one_lt_two hr).1 hlow
  have hhigh : Int.log 2 ((n : ℚ) / d) < (n.log2 : Int) - d.log2 + 1 :=
    (Int.lt_zpow_iff_log_lt one_lt_two hr).1 hhigh
  have hfloor : n * Nat.pow 2 (-guess).toNat / (d * Nat.pow 2 guess.toNat) < Nat.pow 2 52 ↔
      Int.log 2 ((n : ℚ) / d) < 52 + guess := by
    have hscale : 0 < d * Nat.pow 2 guess.toNat := Nat.mul_pos hd (Nat.pow_pos two_pos)
    have hscale' : (0 : ℚ) < (d * Nat.pow 2 guess.toNat : Nat) := Nat.cast_pos.2 hscale
    have hpow : ((Nat.pow 2 52 : Nat) : ℚ) * 2 ^ guess = ((2 : Nat) : ℚ) ^ (52 + guess) := by
      rw [Nat.cast_two, zpow_add₀ two_ne_zero]
      norm_num
    rw [Nat.div_lt_iff_lt_mul hscale, ← Nat.cast_lt (α := ℚ), Nat.cast_mul (Nat.pow 2 52),
      ← div_lt_iff₀ hscale', scaled_fraction, div_lt_iff₀ (by positivity), hpow,
      Int.lt_zpow_iff_log_lt one_lt_two hr]
  split <;> omega

/-- The bits of a mantissa with an exponent, where rounding may have carried into a bit too many. -/
def assemble (mantissa : Nat) (exponent : Int) : UInt64 :=
  let (mantissa, exponent) :=
    if mantissa ≥ Nat.pow 2 53 then (mantissa / 2, exponent + 1) else (mantissa, exponent)
  if exponent > 971 then 0x7FF0000000000000
  else if mantissa < Nat.pow 2 52 then UInt64.ofNat mantissa
  else UInt64.ofNat ((exponent + 1075).toNat * Nat.pow 2 52 + (mantissa - Nat.pow 2 52))

theorem nearestBits_eq {numerator denominator : Nat} (hn : 0 < numerator) (hd : 0 < denominator) :
    nearestBits numerator denominator =
      assemble (roundScaled numerator denominator
          (max (Int.log 2 ((numerator : ℚ) / denominator) - 52) (-1074)))
        (max (Int.log 2 ((numerator : ℚ) / denominator) - 52) (-1074)) := by
  rw [← exponent_eq_log hn hd _ rfl]
  rfl

/-! ## The interval around a float -/

/-- What the bits of a positive finite float give. -/
structure Binary.Wellformed (b : Binary) : Prop where
  pos : 0 < b.mantissa
  lt : b.mantissa < 2 ^ 53
  least : -1074 ≤ b.exponent
  greatest : b.exponent ≤ 971
  normal : b.mantissa < 2 ^ 52 → b.exponent = -1074
  power : b.isPowerOfTwo = true ↔ b.mantissa = 2 ^ 52 ∧ -1074 < b.exponent

/-- The bits that hold a mantissa and an exponent. The implicit bit of the mantissa counts as one
more in the exponent field. -/
def Binary.bits (b : Binary) : Nat :=
  (b.exponent + 1074).toNat * 2 ^ 52 + b.mantissa

/-- A number lies in an interval. -/
structure Interval.Holds (i : Interval) (r : ℚ) : Prop where
  low : (i.low : ℚ) ≤ r * i.denominator
  high : r * i.denominator ≤ i.high
  inside : i.closed = false → (i.low : ℚ) < r * i.denominator ∧ r * i.denominator < i.high

namespace Binary

variable {b : Binary}

/-- Twice the distance to the lower end of the interval, in halves of the unit in the last place. -/
def gap (b : Binary) : ℚ :=
  if b.isPowerOfTwo then 1 else 2

theorem interval_low (hb : b.Wellformed) :
    (b.interval.low : ℚ) = (4 * b.mantissa - b.gap) * (2 ^ b.exponent.toNat : Nat) := by
  have hpos := hb.pos
  rw [interval, gap, Nat.cast_mul, Nat.cast_sub]
  · cases b.isPowerOfTwo <;> simp
  · split <;> omega

theorem interval_high :
    (b.interval.high : ℚ) = (4 * b.mantissa + 2) * (2 ^ b.exponent.toNat : Nat) := by
  have hhigh : b.interval.high = (4 * b.mantissa + 2) * 2 ^ b.exponent.toNat := rfl
  rw [hhigh]
  push_cast
  rfl

theorem interval_denominator :
    (b.interval.denominator : ℚ) = 4 * (2 ^ (-b.exponent).toNat : Nat) := by
  rw [interval, Nat.cast_mul]
  rfl

theorem closed_eq_false : b.interval.closed = false ↔ b.mantissa % 2 = 1 := by
  rw [interval, beq_eq_false_iff_ne]
  omega

/-- The two ways to write a power of two with natural numbers. -/
theorem two_pow_toNat (q : Int) :
    ((2 ^ q.toNat : Nat) : ℚ) = (2 ^ (-q).toNat : Nat) * 2 ^ q := by
  rw [Nat.cast_pow, Nat.cast_pow, Nat.cast_two, ← zpow_natCast, ← zpow_natCast,
    ← zpow_add₀ two_ne_zero]
  congr 1
  omega

/-- The interval in units of the last place. -/
theorem holds_iff (hb : b.Wellformed) {r : ℚ} :
    b.interval.Holds r ↔
      4 * b.mantissa - b.gap ≤ 4 * (r / 2 ^ b.exponent) ∧
        4 * (r / 2 ^ b.exponent) ≤ 4 * b.mantissa + 2 ∧
        (b.mantissa % 2 = 1 → 4 * b.mantissa - b.gap < 4 * (r / 2 ^ b.exponent) ∧
          4 * (r / 2 ^ b.exponent) < 4 * b.mantissa + 2) := by
  have hunit : (0 : ℚ) < 2 ^ b.exponent := by positivity
  have hdown : (0 : ℚ) < (2 ^ (-b.exponent).toNat : Nat) := by positivity
  have hscale : r * b.interval.denominator =
      4 * (r / 2 ^ b.exponent) * (2 ^ b.exponent.toNat : Nat) := by
    rw [interval_denominator, two_pow_toNat b.exponent]
    field_simp
  have hup : (0 : ℚ) < (2 ^ b.exponent.toNat : Nat) := by positivity
  constructor
  · rintro ⟨hlow, hhigh, hinside⟩
    rw [closed_eq_false] at hinside
    rw [hscale, interval_low hb] at hlow hinside
    rw [hscale, interval_high] at hhigh
    rw [interval_high] at hinside
    exact ⟨le_of_mul_le_mul_right hlow hup, le_of_mul_le_mul_right hhigh hup, fun hodd ↦
      ⟨lt_of_mul_lt_mul_right (hinside hodd).1 hup.le,
        lt_of_mul_lt_mul_right (hinside hodd).2 hup.le⟩⟩
  · rintro ⟨hlow, hhigh, hinside⟩
    refine ⟨?_, ?_, fun hopen ↦ ⟨?_, ?_⟩⟩
    · rw [hscale, interval_low hb]
      exact mul_le_mul_of_nonneg_right hlow hup.le
    · rw [hscale, interval_high]
      exact mul_le_mul_of_nonneg_right hhigh hup.le
    · rw [hscale, interval_low hb]
      exact mul_lt_mul_of_pos_right (hinside (closed_eq_false.1 hopen)).1 hup
    · rw [hscale, interval_high]
      exact mul_lt_mul_of_pos_right (hinside (closed_eq_false.1 hopen)).2 hup

theorem gap_le (b : Binary) : b.gap ≤ 2 := by
  rw [gap]
  split <;> norm_num

theorem assemble_bits (hb : b.Wellformed) :
    assemble b.mantissa b.exponent = UInt64.ofNat b.bits := by
  obtain ⟨-, hlt, hleast, hgreatest, hnormal, -⟩ := hb
  have hpow : Nat.pow 2 52 = 2 ^ 52 := rfl
  have hpow' : Nat.pow 2 53 = 2 ^ 53 := rfl
  have hfits : ¬ b.mantissa ≥ 2 ^ 53 := by omega
  have hfinite : ¬ b.exponent > 971 := by omega
  simp only [assemble, hpow, hpow', if_neg hfits, if_neg hfinite, bits]
  split
  next hsmall =>
    have hzero : (b.exponent + 1074).toNat = 0 := by omega
    rw [hzero, Nat.zero_mul, Nat.zero_add]
  next hlarge =>
    have hbits : (b.exponent + 1075).toNat * 2 ^ 52 + (b.mantissa - 2 ^ 52) =
        (b.exponent + 1074).toNat * 2 ^ 52 + b.mantissa := by omega
    rw [hbits]

/-- Below a power of two, rounding carries into it. -/
theorem assemble_carry (hb : b.Wellformed) (hmantissa : b.mantissa = 2 ^ 52) :
    assemble (2 ^ 53) (b.exponent - 1) = UInt64.ofNat b.bits := by
  have hgreatest := hb.greatest
  have hleast := hb.least
  have hpow : Nat.pow 2 52 = 2 ^ 52 := rfl
  have hpow' : Nat.pow 2 53 = 2 ^ 53 := rfl
  have hfinite : ¬ b.exponent - 1 + 1 > 971 := by omega
  have hhalf : 2 ^ 53 / 2 = 2 ^ 52 := rfl
  have hbits : (b.exponent - 1 + 1 + 1075).toNat * 2 ^ 52 + (2 ^ 52 - 2 ^ 52) =
      (b.exponent + 1074).toNat * 2 ^ 52 + 2 ^ 52 := by omega
  simp only [assemble, hpow, hpow', ge_iff_le, le_refl, if_true, hhalf, lt_self_iff_false, if_false,
    if_neg hfinite, bits, hmantissa]
  rw [hbits]

section holds

variable {r : ℚ} {n d : Nat}

/-- Not even the upper end of an interval has a bit more than the float. -/
theorem log_lt_of_holds (hb : b.Wellformed) (hr : 0 < r) (h : b.interval.Holds r) :
    Int.log 2 r < 53 + b.exponent := by
  obtain ⟨-, hhigh, -⟩ := (holds_iff hb).1 h
  have hunit : (0 : ℚ) < 2 ^ b.exponent := by positivity
  have hmantissa : (b.mantissa : ℚ) + 1 ≤ 2 ^ 53 := by exact_mod_cast hb.lt
  have hunits : r / 2 ^ b.exponent < 2 ^ 53 := by linarith
  apply (Int.lt_zpow_iff_log_lt one_lt_two hr).1
  calc r
    _ < 2 ^ 53 * 2 ^ b.exponent := (div_lt_iff₀ hunit).1 hunits
    _ = ((2 : Nat) : ℚ) ^ (53 + b.exponent) := by
      rw [Nat.cast_two, zpow_add₀ two_ne_zero]
      norm_num

/-- A fraction with the unit of the float is rounded to its mantissa. -/
theorem nearestBits_of_unit (hb : b.Wellformed) (hn : 0 < n) (hd : 0 < d)
    (h : b.interval.Holds ((n : ℚ) / d))
    (hunit : (2 : ℚ) ^ (52 + b.exponent) ≤ (n : ℚ) / d ∨ b.exponent = -1074) :
    nearestBits n d = UInt64.ofNat b.bits := by
  have hr : (0 : ℚ) < (n : ℚ) / d := by positivity
  have hbelow := log_lt_of_holds hb hr h
  have hgap := b.gap_le
  have hexponent : max (Int.log 2 ((n : ℚ) / d) - 52) (-1074) = b.exponent := by
    have hleast := hb.least
    cases hunit with
    | inl habove =>
      have hlog := (Int.zpow_le_iff_le_log one_lt_two hr).1 habove
      omega
    | inr hsmallest => omega
  obtain ⟨hlow, hhigh, hodd⟩ := (holds_iff hb).1 h
  rw [nearestBits_eq hn hd, hexponent, roundScaled_eq hd (k := b.mantissa), assemble_bits hb]
  · linarith
  · linarith
  · intro h
    obtain ⟨hlow, hhigh⟩ := hodd h
    constructor <;> linarith

theorem units_lt (h : r < 2 ^ (52 + b.exponent)) : r / 2 ^ b.exponent < 2 ^ 52 := by
  rw [div_lt_iff₀ (by positivity)]
  exact h.trans_eq (zpow_add₀ two_ne_zero 52 b.exponent)

/-- Only just below a power of two is the unit of a fraction smaller than that of its float. -/
theorem power_of_below (hb : b.Wellformed) (h : b.interval.Holds r)
    (hless : r < 2 ^ (52 + b.exponent)) (hsmallest : b.exponent ≠ -1074) :
    b.mantissa = 2 ^ 52 ∧ 4 * 2 ^ 52 - 1 ≤ 4 * (r / 2 ^ b.exponent) := by
  obtain ⟨hlow, -, -⟩ := (holds_iff hb).1 h
  have hgap := b.gap_le
  have hfew := units_lt hless
  have hpower : b.mantissa = 2 ^ 52 := by
    have hlarge : 2 ^ 52 ≤ b.mantissa := Nat.le_of_not_lt (mt hb.normal hsmallest)
    have hcast : (b.mantissa : ℚ) < 2 ^ 52 + 1 := by linarith
    have hsmall : b.mantissa < 2 ^ 52 + 1 := by exact_mod_cast hcast
    omega
  have hhalf : b.gap = 1 := by
    rw [gap, hb.power.2 ⟨hpower, lt_of_le_of_ne hb.least (Ne.symm hsmallest)⟩]
    rfl
  have hcast : (b.mantissa : ℚ) = 2 ^ 52 := by exact_mod_cast hpower
  rw [hhalf, hcast] at hlow
  exact ⟨hpower, hlow⟩

/-- A fraction just below a power of two is rounded up to it. -/
theorem nearestBits_of_below (hb : b.Wellformed) (hn : 0 < n) (hd : 0 < d)
    (h : b.interval.Holds ((n : ℚ) / d)) (hless : (n : ℚ) / d < 2 ^ (52 + b.exponent))
    (hsmallest : b.exponent ≠ -1074) : nearestBits n d = UInt64.ofNat b.bits := by
  have hr : (0 : ℚ) < (n : ℚ) / d := by positivity
  have hunit : (0 : ℚ) < 2 ^ b.exponent := by positivity
  obtain ⟨hpower, hlow⟩ := power_of_below hb h hless hsmallest
  have hmany : (2 : ℚ) ^ 51 ≤ (n : ℚ) / d / 2 ^ b.exponent := by linarith
  have habove : 51 + b.exponent ≤ Int.log 2 ((n : ℚ) / d) := by
    apply (Int.zpow_le_iff_le_log one_lt_two hr).1
    calc ((2 : Nat) : ℚ) ^ (51 + b.exponent)
      _ = 2 ^ 51 * 2 ^ b.exponent := by
        rw [Nat.cast_two, zpow_add₀ two_ne_zero]
        norm_num
      _ ≤ (n : ℚ) / d := (le_div_iff₀ hunit).1 hmany
  have hbelow : Int.log 2 ((n : ℚ) / d) < 52 + b.exponent :=
    (Int.lt_zpow_iff_log_lt one_lt_two hr).1 hless
  have hexponent : max (Int.log 2 ((n : ℚ) / d) - 52) (-1074) = b.exponent - 1 := by
    have hleast := hb.least
    omega
  have hfiner : (n : ℚ) / d / 2 ^ (b.exponent - 1) = 2 * ((n : ℚ) / d / 2 ^ b.exponent) := by
    rw [zpow_sub_one₀ two_ne_zero]
    field_simp
  have hhigh := units_lt hless
  rw [nearestBits_eq hn hd, hexponent, roundScaled_eq hd (k := 2 ^ 53), assemble_carry hb hpower]
  · rw [hfiner]
    push_cast
    linarith
  · rw [hfiner]
    push_cast
    linarith
  · intro hodd
    exact absurd hodd (by decide)

/-- A fraction from the interval around a float has its bits. -/
theorem nearestBits_of_holds (hb : b.Wellformed) (hn : 0 < n) (hd : 0 < d)
    (h : b.interval.Holds ((n : ℚ) / d)) : nearestBits n d = UInt64.ofNat b.bits := by
  by_cases hunit : (2 : ℚ) ^ (52 + b.exponent) ≤ (n : ℚ) / d ∨ b.exponent = -1074
  · exact nearestBits_of_unit hb hn hd h hunit
  · obtain ⟨hless, hsmallest⟩ := not_or.1 hunit
    exact nearestBits_of_below hb hn hd h (not_le.1 hless) hsmallest

end holds

end Binary

end Playbook.Decimal
