import Mathlib
import Playbook.Decimal.Division
import Playbook.Proofs.Numeral
import Playbook.Template.Filter.Scalar

/-!
# Integers as integers

The filter that makes an integer of a value leaves integers as they are from the smallest one of 64
bits on, but only up to the largest one. A larger integer is read as a float instead. The float
nearest to it is at least two to the sixty-third, since that is a float itself, and is cut down to
the largest integer.
-/

namespace Playbook

namespace Decimal

open Float.Model Float.Model.UnpackedFloat

/-! ## Normal floats -/

/-- Only the greatest exponent field is that of infinity and of what is no number. -/
theorem isFinite_unpack {spec : Format} {bits : BitVec spec.numBits}
    (h : unpackExponent bits ≠ -1#_) :
    (unpack spec bits).isFinite = true ∧ (unpack spec bits).isNaN = false := by
  unfold UnpackedFloat.unpack
  rw [if_neg h]
  split
  · split <;> exact ⟨rfl, rfl⟩
  · exact ⟨rfl, rfl⟩

/-- The fields of a positive float whose exponent field is neither the least nor the greatest. -/
structure Normal where
  exponent : Nat
  fraction : Nat
  pos : 0 < exponent
  lt : exponent < 2047
  fraction_lt : fraction < 2 ^ 52

namespace Normal

def bits (x : Normal) : UInt64 :=
  UInt64.ofNat (x.exponent * 2 ^ 52 + x.fraction)

def float (x : Normal) : Float :=
  Float.ofBits x.bits

variable (x : Normal)

theorem toNat_bits : x.bits.toNat = x.exponent * 2 ^ 52 + x.fraction := by
  have hlt := x.lt
  have hfraction := x.fraction_lt
  have hsmall : x.exponent * 2 ^ 52 + x.fraction < 2 ^ 64 := by omega
  rw [bits, UInt64.toNat_ofNat', Nat.mod_eq_of_lt hsmall]

theorem unpackExponent_ne : @unpackExponent Format.binary64 x.bits.toBitVec ≠ -1#11 := by
  have hlt := x.lt
  have hfraction := x.fraction_lt
  have hfield : (@unpackExponent Format.binary64 x.bits.toBitVec).toNat =
      x.bits.toNat / 2 ^ 52 % 2 ^ 11 := by
    rw [unpackExponent_def, BitVec.extractLsb'_toNat, UInt64.toNat_toBitVec,
      Nat.shiftRight_eq_div_pow]
  have hall : (-1#11).toNat = 2047 := rfl
  intro h
  rw [h, hall, toNat_bits] at hfield
  omega

theorem toBits_float : x.float.toBits = x.bits := by
  have hround : x.float.toBits = UInt64.ofBitVec (UnpackedFloat.pack Format.binary64
      (UnpackedFloat.unpack Format.binary64 x.bits.toBitVec)) := rfl
  have hnumber : ¬ @isNaNBits Format.binary64 x.bits.toBitVec = true := by
    rw [isNaNBits, decide_eq_true_eq]
    exact fun h ↦ x.unpackExponent_ne h.1
  rw [hround, pack_unpack, if_neg hnumber]

theorem unpack_float : x.float.toModel.unpack =
    UnpackedFloat.unpack Format.binary64 x.bits.toBitVec := by
  have hunpack : x.float.toModel.unpack =
      UnpackedFloat.unpack Format.binary64 x.float.toBits.toBitVec := rfl
  rw [hunpack, toBits_float]

theorem isNaN_float : x.float.isNaN = false :=
  (congrArg UnpackedFloat.isNaN x.unpack_float).trans (isFinite_unpack x.unpackExponent_ne).2

theorem isFinite_float : x.float.isFinite = true :=
  (congrArg UnpackedFloat.isFinite x.unpack_float).trans (isFinite_unpack x.unpackExponent_ne).1

theorem isNegative_float : isNegative x.float = false := by
  have hlt := x.lt
  have hfraction := x.fraction_lt
  have hshift : (63 : UInt64).toNat % 64 = 63 := rfl
  rw [isNegative, toBits_float, beq_eq_false_iff_ne]
  intro h
  have hone : (x.bits >>> 63).toNat = 1 := congrArg UInt64.toNat h
  rw [UInt64.toNat_shiftRight, toNat_bits, hshift, Nat.shiftRight_eq_div_pow] at hone
  omega

theorem exponent_field : ((x.bits >>> 52) &&& 0x7FF).toNat = x.exponent := by
  have hlt := x.lt
  have hfraction := x.fraction_lt
  have hmask : (0x7FF : UInt64).toNat = 2 ^ 11 - 1 := rfl
  have hshift : (52 : UInt64).toNat % 64 = 52 := rfl
  rw [UInt64.toNat_and, UInt64.toNat_shiftRight, toNat_bits, hmask,
    Nat.and_two_pow_sub_one_eq_mod, hshift, Nat.shiftRight_eq_div_pow]
  omega

theorem fraction_field : (x.bits &&& 0xFFFFFFFFFFFFF).toNat = x.fraction := by
  have hfraction := x.fraction_lt
  have hmask : (0xFFFFFFFFFFFFF : UInt64).toNat = 2 ^ 52 - 1 := rfl
  rw [UInt64.toNat_and, toNat_bits, hmask, Nat.and_two_pow_sub_one_eq_mod]
  omega

/-- A float without places behind its point is its mantissa times a power of two. -/
theorem truncated_float (h : 1075 ≤ x.exponent) :
    truncated x.float = ((x.fraction + 2 ^ 52) * 2 ^ (x.exponent - 1075) : Nat) := by
  have hnonzero : (x.exponent == 0) = false := beq_eq_false_iff_ne.mpr (by omega)
  have hup : ((x.exponent : Int) - 1075).toNat = x.exponent - 1075 := by omega
  have hdown : (-((x.exponent : Int) - 1075)).toNat = 0 := by omega
  rw [truncated, isNegative_float, Binary.ofFloat]
  simp only [toBits_float, exponent_field, fraction_field, hnonzero, Bool.false_eq_true, if_false,
    hup, hdown]
  exact congrArg Nat.cast (Nat.div_one _)

theorem saturated_float (h : 1086 ≤ x.exponent) : saturated x.float = 2 ^ 63 - 1 := by
  have hpower : 2 ^ 11 ≤ 2 ^ (x.exponent - 1075) := Nat.pow_le_pow_right (by decide) (by omega)
  have hlarge : 2 ^ 63 ≤ (x.fraction + 2 ^ 52) * 2 ^ (x.exponent - 1075) :=
    calc 2 ^ 63 = 2 ^ 52 * 2 ^ 11 := by decide
      _ ≤ _ := Nat.mul_le_mul (Nat.le_add_left _ _) hpower
  have hpow : ((Nat.pow 2 63 : Nat) : Int) = 2 ^ 63 := rfl
  rw [saturated, isNaN_float, isFinite_float, truncated_float x (by omega), hpow]
  generalize (x.fraction + 2 ^ 52) * 2 ^ (x.exponent - 1075) = magnitude at hlarge
  simp only [Bool.false_eq_true, Bool.not_true, if_false]
  omega

end Normal

/-! ## Floats nearest to large numbers -/

theorem saturated_infinity : saturated (Float.ofBits 0x7FF0000000000000) = 2 ^ 63 - 1 := by
  rfl

theorem scaled_numerator (n k : Nat) : n * Nat.pow 2 (-(k : Int)).toNat = n := by
  have hzero : (-(k : Int)).toNat = 0 := by omega
  rw [hzero]
  exact Nat.mul_one n

theorem scaled_denominator (k : Nat) : 1 * Nat.pow 2 (k : Int).toNat = 2 ^ k := by
  rw [Int.toNat_natCast]
  exact Nat.one_mul _

/-- A quotient is rounded to itself or to the next number. -/
theorem roundScaled_bounds (n k : Nat) :
    n / 2 ^ k ≤ roundScaled n 1 k ∧ roundScaled n 1 k ≤ n / 2 ^ k + 1 := by
  rw [roundScaled, scaled_numerator, scaled_denominator]
  split <;> omega

/-- A mantissa of fifty-three bits is that of a normal float, unless its exponent is too large. -/
theorem normal_or_infinite (mantissa exponent : Nat) (hlow : 2 ^ 52 ≤ mantissa)
    (hhigh : mantissa < 2 ^ 53) (hexponent : 11 ≤ exponent) (bits : UInt64)
    (hbits : bits = if (exponent : Int) > 971 then 0x7FF0000000000000
      else if mantissa < Nat.pow 2 52 then UInt64.ofNat mantissa
      else UInt64.ofNat (((exponent : Int) + 1075).toNat * Nat.pow 2 52 +
        (mantissa - Nat.pow 2 52))) :
    bits = 0x7FF0000000000000 ∨ ∃ x : Normal, 1086 ≤ x.exponent ∧ bits = x.bits := by
  by_cases hlarge : (exponent : Int) > 971
  · rw [if_pos hlarge] at hbits
    exact .inl hbits
  · have hpow : Nat.pow 2 52 = 2 ^ 52 := rfl
    have hfield : ((exponent : Int) + 1075).toNat = exponent + 1075 := by omega
    rw [if_neg hlarge, hpow, if_neg (Nat.not_lt.mpr hlow), hfield] at hbits
    exact .inr ⟨⟨exponent + 1075, mantissa - 2 ^ 52, by omega, by omega, by omega⟩,
      Nat.add_le_add_right hexponent 1075, hbits⟩

/-- The float nearest to a number of at least sixty-four bits is infinite or has no places behind
its point. -/
theorem nearestBits_large {n : Nat} (hn : 2 ^ 63 ≤ n) :
    nearestBits n 1 = 0x7FF0000000000000 ∨
      ∃ x : Normal, 1086 ≤ x.exponent ∧ nearestBits n 1 = x.bits := by
  have hnonzero : n ≠ 0 := by omega
  have hlog : 63 ≤ n.log2 := (Nat.le_log2 hnonzero).mpr hn
  obtain ⟨k, hk⟩ : ∃ k, n.log2 = k + 52 := ⟨n.log2 - 52, by omega⟩
  have hguess : (n.log2 : Int) - (1 : Nat).log2 - 52 = k := by
    have hone : (1 : Nat).log2 = 0 := rfl
    omega
  have hlow : 2 ^ 52 ≤ n / 2 ^ k := by
    rw [Nat.le_div_iff_mul_le (Nat.two_pow_pos k), ← Nat.pow_add, Nat.add_comm, ← hk]
    exact Nat.log2_self_le hnonzero
  have hhigh : n / 2 ^ k < 2 ^ 53 := by
    rw [Nat.div_lt_iff_lt_mul (Nat.two_pow_pos k), ← Nat.pow_add]
    have hlt : n < 2 ^ (n.log2 + 1) := Nat.lt_log2_self
    rwa [hk, Nat.add_assoc, Nat.add_comm k] at hlt
  have hfloor : ¬ n * Nat.pow 2 (-(k : Int)).toNat / (1 * Nat.pow 2 (k : Int).toNat) <
      Nat.pow 2 52 := by
    rw [scaled_numerator, scaled_denominator]
    exact Nat.not_lt.mpr hlow
  have hmax : max (k : Int) (-1074) = k := by omega
  obtain ⟨hbelow, habove⟩ := roundScaled_bounds n k
  unfold nearestBits
  simp only [hguess, if_neg hfloor, hmax]
  generalize roundScaled n 1 k = mantissa at hbelow habove ⊢
  have hpow : Nat.pow 2 53 = 2 ^ 53 := rfl
  -- Rounding up may reach the next power of two, which has one bit too many.
  by_cases hcarry : mantissa ≥ Nat.pow 2 53
  · simp only [if_pos hcarry]
    exact normal_or_infinite (mantissa / 2) (k + 1) (by omega) (by omega) (by omega) _ rfl
  · simp only [if_neg hcarry]
    exact normal_or_infinite mantissa k (by omega) (by omega) (by omega) _ rfl

theorem saturated_nearest {n : Nat} (hn : 2 ^ 63 ≤ n) : saturated (nearest n 1) = 2 ^ 63 - 1 := by
  have hnonzero : (n == 0) = false := beq_eq_false_iff_ne.mpr (by omega)
  rw [nearest, hnonzero, if_neg Bool.false_ne_true]
  rcases nearestBits_large hn with hbits | ⟨x, hexponent, hbits⟩
  · rw [hbits]
    exact saturated_infinity
  · rw [hbits]
    exact x.saturated_float hexponent

theorem saturated_ofDecimal {n : Nat} (hn : 2 ^ 63 ≤ n) :
    saturated (ofDecimal n 0) = 2 ^ 63 - 1 := by
  have hnonzero : (n == 0) = false := beq_eq_false_iff_ne.mpr (by omega)
  have hsmall : ¬ ((Nat.toDigits 10 n).length : Int) + 0 < -400 := by omega
  have hnearest : nearest (n * Nat.pow 10 (0 : Int).toNat) (Nat.pow 10 (-(0 : Int)).toNat) =
      nearest n 1 := by
    have hone : Nat.pow 10 (0 : Int).toNat = 1 := rfl
    rw [hone, Nat.mul_one]
    rfl
  rw [ofDecimal, hnonzero, if_neg Bool.false_ne_true]
  by_cases hmany : ((Nat.toDigits 10 n).length : Int) + 0 > 400
  · rw [if_pos hmany]
    exact saturated_infinity
  · rw [if_neg hmany, if_neg hsmall, hnearest]
    exact saturated_nearest hn

end Decimal

/-! ## The filter -/

namespace Template.Filter

variable {n : Int}

/-- Without blanks around it, the spelling of an integer is the text of that integer. -/
theorem toList_text_int (n : Int) :
    (Value.ofJson (.int n)).text.toList = [] ++ Json.spelled (.int n) ++ [] := by
  rw [List.nil_append, List.append_nil]
  rfl

theorem isBlank_spelled (n : Int) : ∀ c ∈ Json.spelled (.int n), Text.isBlank c = false := by
  have hdigits (m : Nat) : ∀ c ∈ Nat.toDigits 10 m, Text.isBlank c = false := fun c hc ↦
    Text.isBlank_of_isDigit (Nat.isDigit_of_mem_toDigits (by decide) (by decide) hc)
  by_cases hn : 0 ≤ n
  · rw [Json.spelled_int_of_nonneg hn]
    exact hdigits n.toNat
  · rw [Json.spelled_int_of_neg hn]
    exact List.forall_mem_cons.mpr ⟨by decide, hdigits (-n).toNat⟩

/-- The spelling of an integer is read as the integer, or as the largest one if it is larger. -/
theorem int_of_spelled {value : Value} {before after : List Char}
    (htext : value.text.toList = before ++ Json.spelled (.int n) ++ after)
    (hbefore : ∀ c ∈ before, Text.isBlank c = true) (hafter : ∀ c ∈ after, Text.isBlank c = true)
    (hn : -2 ^ 63 ≤ n) : int value = .int (min n (2 ^ 63 - 1)) := by
  rw [int, htext, Text.trimList_surrounded hbefore (isBlank_spelled n) hafter]
  by_cases hsign : 0 ≤ n
  · obtain ⟨m, rfl⟩ := Int.eq_ofNat_of_zero_le hsign
    rw [Json.spelled_int_of_nonneg hsign, Int.toNat_natCast, Decimal.Integer.int64_toDigits]
    by_cases hfits : m ≤ 2 ^ 63 - 1
    · have hmin : min (m : Int) (2 ^ 63 - 1) = m := by omega
      rw [if_pos hfits, hmin]
    · have hmin : min (m : Int) (2 ^ 63 - 1) = 2 ^ 63 - 1 := by omega
      rw [if_neg hfits, Decimal.float?_toDigits, hmin]
      exact congrArg Value.int (Decimal.saturated_ofDecimal (by omega))
  · have hmin : min n (2 ^ 63 - 1) = n := by omega
    have hmagnitude : -((-n).toNat : Int) = n := by omega
    rw [Json.spelled_int_of_neg hsign, Decimal.Integer.int64_minus, if_pos (by omega), hmagnitude,
      hmin]

/-- An integer of at least the smallest one of 64 bits, or its spelling between blanks, gives that
integer exactly if it is not larger than the largest one, which stands for all that are. -/
theorem int_integer (n : Int) (hn : -2 ^ 63 ≤ n) (before after : List Char)
    (hbefore : ∀ c ∈ before, Text.isBlank c = true) (hafter : ∀ c ∈ after, Text.isBlank c = true)
    (value : Value)
    (hvalue : value = .ofJson (.int n) ∨
      value = .str (String.ofList (before ++ (toString n).toList ++ after))) :
    int value = .int (min n (2 ^ 63 - 1)) ∧ (int value = .int n ↔ n < 2 ^ 63) := by
  have hint : int value = .int (min n (2 ^ 63 - 1)) := by
    rcases hvalue with rfl | rfl
    · exact int_of_spelled (toList_text_int n) nofun nofun hn
    · exact int_of_spelled (by rw [Value.text, String.toList_ofList]; rfl) hbefore hafter hn
  refine ⟨hint, ?_⟩
  rw [hint, Value.int.injEq]
  omega

/-- The largest integer that a fact can be. -/
theorem int_integer_largest :
    int (.str " \t18446744073709551615\n") = .int 9223372036854775807 := by
  have hbefore : ∀ c ∈ [' ', '\t'], Text.isBlank c = true := by simp [Text.isBlank]
  have hafter : ∀ c ∈ ['\n'], Text.isBlank c = true := by simp [Text.isBlank]
  exact (int_integer 18446744073709551615 (by decide) [' ', '\t'] ['\n'] hbefore hafter _
    (.inr rfl)).1

/-- The first integer that is not kept. -/
theorem int_lowers : int (.ofJson (.int 9223372036854775808)) ≠ .int 9223372036854775808 := by
  rw [int_of_spelled (toList_text_int _) nofun nofun (by decide), ne_eq, Value.int.injEq]
  decide

end Template.Filter

end Playbook
