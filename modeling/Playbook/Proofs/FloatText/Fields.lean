import Mathlib
import Playbook.Proofs.FloatText.Shortest
import Playbook.Proofs.IntegerFilter

/-!
# The fields of a float

A finite float is its sign and what its exponent and fraction make a mantissa with an exponent. It
is put together again from these.
-/

namespace Playbook.Decimal

open Float.Model Float.Model.UnpackedFloat

variable {x : Float}

/-! ## Fields as numbers -/

theorem isNegative_iff : isNegative x = true ↔ x.toBits.toNat / 2 ^ 63 = 1 := by
  have hshift : (63 : UInt64).toNat % 64 = 63 := rfl
  have hone : (1 : UInt64).toNat = 1 := rfl
  rw [isNegative, beq_iff_eq, ← UInt64.toNat_inj, UInt64.toNat_shiftRight, hshift,
    Nat.shiftRight_eq_div_pow, hone]

theorem exponentField_eq :
    ((x.toBits >>> 52) &&& 0x7FF).toNat = x.toBits.toNat / 2 ^ 52 % 2 ^ 11 := by
  have hmask : (0x7FF : UInt64).toNat = 2 ^ 11 - 1 := rfl
  have hshift : (52 : UInt64).toNat % 64 = 52 := rfl
  rw [UInt64.toNat_and, UInt64.toNat_shiftRight, hmask, Nat.and_two_pow_sub_one_eq_mod, hshift,
    Nat.shiftRight_eq_div_pow]

theorem fractionField_eq :
    (x.toBits &&& 0xFFFFFFFFFFFFF).toNat = x.toBits.toNat % 2 ^ 52 := by
  have hmask : (0xFFFFFFFFFFFFF : UInt64).toNat = 2 ^ 52 - 1 := rfl
  rw [UInt64.toNat_and, hmask, Nat.and_two_pow_sub_one_eq_mod]

theorem toNat_unpackExponent (bits : UInt64) :
    (@unpackExponent Format.binary64 bits.toBitVec).toNat = bits.toNat / 2 ^ 52 % 2 ^ 11 := by
  rw [unpackExponent_def, BitVec.extractLsb'_toNat, UInt64.toNat_toBitVec,
    Nat.shiftRight_eq_div_pow]

theorem toNat_unpackMantissa (bits : UInt64) :
    (@unpackMantissa Format.binary64 bits.toBitVec).toNat = bits.toNat % 2 ^ 52 := by
  rw [unpackMantissa_def, BitVec.extractLsb'_toNat, UInt64.toNat_toBitVec, Nat.shiftRight_zero]

theorem toNat_unpackSign (bits : UInt64) :
    (@unpackSign Format.binary64 bits.toBitVec).toNat = bits.toNat / 2 ^ 63 % 2 := by
  rw [unpackSign_def, BitVec.extractLsb'_toNat, UInt64.toNat_toBitVec, Nat.shiftRight_eq_div_pow]
  rfl

theorem isFinite_iff : x.isFinite = true ↔ x.toBits.toNat / 2 ^ 52 % 2 ^ 11 ≠ 2047 := by
  have hunpack : x.isFinite =
      (UnpackedFloat.unpack Format.binary64 x.toBits.toBitVec).isFinite := rfl
  have hall : (-1#11).toNat = 2047 := rfl
  rw [hunpack, ← toNat_unpackExponent, ← hall, Ne, BitVec.toNat_inj]
  constructor
  · intro hfinite hspecial
    rw [UnpackedFloat.unpack, if_pos hspecial] at hfinite
    split at hfinite <;> cases hfinite
  · intro hordinary
    exact (isFinite_unpack hordinary).1

/-- A float is finite, infinite or no number. -/
theorem isFinite_eq (x : Float) : x.isFinite = (!x.isNaN && !x.isInf) := by
  have hfinite : x.isFinite = x.toModel.unpack.isFinite := rfl
  have hnumber : x.isNaN = x.toModel.unpack.isNaN := rfl
  have hinfinite : x.isInf = x.toModel.unpack.isInf := rfl
  rw [hfinite, hnumber, hinfinite]
  cases x.toModel.unpack <;> rfl

/-! ## The mantissa with its exponent -/

theorem ofFloat_eq (x : Float) : Binary.ofFloat x =
    if x.toBits.toNat / 2 ^ 52 % 2 ^ 11 = 0 then ⟨x.toBits.toNat % 2 ^ 52, -1074, false⟩
    else ⟨x.toBits.toNat % 2 ^ 52 + 2 ^ 52, (x.toBits.toNat / 2 ^ 52 % 2 ^ 11 : Nat) - 1075,
      x.toBits.toNat % 2 ^ 52 == 0 && x.toBits.toNat / 2 ^ 52 % 2 ^ 11 > 1⟩ := by
  have hpow : Nat.pow 2 52 = 2 ^ 52 := rfl
  rw [Binary.ofFloat]
  simp only [exponentField_eq, fractionField_eq, beq_iff_eq, hpow]

theorem wellformed_ofFloat (hfinite : x.isFinite = true) (hpos : (Binary.ofFloat x).mantissa ≠ 0) :
    (Binary.ofFloat x).Wellformed := by
  rw [isFinite_iff] at hfinite
  rw [ofFloat_eq] at hpos ⊢
  split
  next hzero =>
    rw [if_pos hzero] at hpos
    have hsubnormal : ¬ (x.toBits.toNat % 2 ^ 52 = 2 ^ 52 ∧ (-1074 : Int) < -1074) := by omega
    exact
      { pos := Nat.pos_of_ne_zero hpos
        lt := by dsimp only; omega
        least := le_refl (-1074)
        greatest := show (-1074 : Int) ≤ 971 by decide
        normal := fun _ ↦ rfl
        power := iff_of_false Bool.false_ne_true hsubnormal }
  next hnonzero =>
    exact
      { pos := by dsimp only; omega
        lt := by dsimp only; omega
        least := by dsimp only; omega
        greatest := by dsimp only; omega
        normal := by dsimp only; omega
        power := by
          rw [Bool.and_eq_true, beq_iff_eq, decide_eq_true_eq]
          dsimp only
          omega }

/-- Without the sign, mantissa and exponent give the bits of the float. -/
theorem bits_ofFloat (x : Float) : (Binary.ofFloat x).bits = x.toBits.toNat % 2 ^ 63 := by
  have hbits : x.toBits.toNat < 2 ^ 64 := x.toBits.toNat_lt
  rw [ofFloat_eq, Binary.bits]
  split <;> dsimp only <;> omega

/-! ## The sign -/

/-- Two patterns of bits that differ in the sign only are opposite floats. -/
theorem neg_unpack {magnitude bits : BitVec Format.binary64.numBits}
    (hexponent : unpackExponent magnitude = unpackExponent bits)
    (hmantissa : unpackMantissa magnitude = unpackMantissa bits)
    (hpositive : unpackSign magnitude = 0#1) (hnegative : unpackSign bits = 1#1) :
    (unpack Format.binary64 magnitude).neg = unpack Format.binary64 bits := by
  have hpositive : Sign.ofBitVec (unpackSign magnitude) = .positive := by rw [hpositive]; rfl
  have hnegative : Sign.ofBitVec (unpackSign bits) = .negative := by rw [hnegative]; rfl
  unfold UnpackedFloat.unpack
  simp only [hexponent, hmantissa, hpositive, hnegative]
  split
  next => split <;> rfl
  next =>
    split
    next => split <;> rfl
    next => rfl

theorem withSign_ofBits (hfinite : x.isFinite = true) :
    withSign (isNegative x) (Float.ofBits (UInt64.ofNat (x.toBits.toNat % 2 ^ 63))) = x := by
  have hbits : x.toBits.toNat < 2 ^ 64 := x.toBits.toNat_lt
  cases hsign : isNegative x with
  | false =>
    have hpositive : x.toBits.toNat / 2 ^ 63 ≠ 1 := mt isNegative_iff.2 (by simp [hsign])
    have hmagnitude : x.toBits.toNat % 2 ^ 63 = x.toBits.toNat := by omega
    rw [hmagnitude, UInt64.ofNat_toNat]
    exact x.ofBits_toBits
  | true =>
    have hnegative := isNegative_iff.1 hsign
    have hmagnitude : (UInt64.ofNat (x.toBits.toNat % 2 ^ 63)).toNat = x.toBits.toNat % 2 ^ 63 := by
      rw [UInt64.toNat_ofNat']
      omega
    generalize UInt64.ofNat (x.toBits.toNat % 2 ^ 63) = magnitude at hmagnitude
    rw [isFinite_iff] at hfinite
    have hexponent : @unpackExponent Format.binary64 magnitude.toBitVec =
        @unpackExponent Format.binary64 x.toBits.toBitVec := by
      rw [← BitVec.toNat_inj, toNat_unpackExponent, toNat_unpackExponent, hmagnitude]
      omega
    have hunpack : (unpack Format.binary64 magnitude.toBitVec).neg =
        unpack Format.binary64 x.toBits.toBitVec := by
      apply neg_unpack hexponent
      · rw [← BitVec.toNat_inj, toNat_unpackMantissa, toNat_unpackMantissa, hmagnitude]
        omega
      · have hzero : (0#1).toNat = 0 := rfl
        rw [← BitVec.toNat_inj, toNat_unpackSign, hmagnitude, hzero]
        omega
      · have hone : (1#1).toNat = 1 := rfl
        rw [← BitVec.toNat_inj, toNat_unpackSign, hone]
        omega
    have hsame : (Float.ofBits magnitude).toModel.unpack =
        unpack Format.binary64 magnitude.toBitVec := by
      have hnumber : ¬ @isNaNBits Format.binary64 magnitude.toBitVec = true := by
        rw [isNaNBits, decide_eq_true_eq, hexponent]
        rintro ⟨hspecial, -⟩
        exact hfinite (by rw [← toNat_unpackExponent, hspecial]; rfl)
      have hround : (Float.ofBits magnitude).toModel.unpack =
          unpack Format.binary64 (UnpackedFloat.pack Format.binary64
            (unpack Format.binary64 magnitude.toBitVec)) := rfl
      rw [hround, pack_unpack, if_neg hnumber]
    have hneg : withSign true (Float.ofBits magnitude) =
        .ofModel (Float.Model.pack (Float.ofBits magnitude).toModel.unpack.neg) := rfl
    rw [hneg, hsame, hunpack]
    exact x.ofBits_toBits

end Playbook.Decimal
