import Mathlib.Data.List.TakeWhile
import Playbook.Decimal.Reading
import Playbook.Proofs.Spelling.Value
import Playbook.Text.Blank

/-!
# Decimal numerals

The spelling of an integer, with blanks around it, is read as that integer where it fits, and as a
decimal fraction without a point where it does not.
-/

namespace Playbook

namespace Text

/-! ## Blanks around a text -/

theorem isBlank_of_isDigit {c : Char} (h : c.isDigit = true) : isBlank c = false := by
  have hrange : 48 ≤ c.toNat ∧ c.toNat ≤ 57 := Char.isDigit_iff_toNat.mp h
  simp only [isBlank, Bool.or_eq_false_iff, Bool.and_eq_false_iff, decide_eq_false_iff_not,
    beq_eq_false_iff_ne]
  omega

theorem trimStart_append {before : List Char} (hbefore : ∀ c ∈ before, isBlank c = true)
    (text : List Char) : trimStart (before ++ text) = trimStart text :=
  List.dropWhile_append_of_pos hbefore

theorem trimStart_cons {c : Char} (hc : isBlank c = false) (rest : List Char) :
    trimStart (c :: rest) = c :: rest :=
  List.dropWhile_cons_of_neg (by rw [hc]; exact Bool.false_ne_true)

/-- Nothing but the blanks around a text without blanks is taken off. -/
theorem trimList_surrounded {before core after : List Char}
    (hbefore : ∀ c ∈ before, isBlank c = true) (hcore : ∀ c ∈ core, isBlank c = false)
    (hafter : ∀ c ∈ after, isBlank c = true) : trimList (before ++ core ++ after) = core := by
  have hback : ∀ c ∈ after.reverse, isBlank c = true := fun c hc ↦
    hafter c (List.mem_reverse.mp hc)
  rw [trimList, List.append_assoc, trimStart_append hbefore, trimEnd]
  cases hparts : core with
  | nil =>
    have hnone : trimStart after = [] := List.dropWhile_eq_nil_iff.mpr hafter
    rw [List.nil_append, hnone]
    rfl
  | cons c rest =>
    obtain ⟨last, front, hlast⟩ : ∃ last front, core.reverse = last :: front :=
      List.exists_cons_of_ne_nil (by simp [hparts])
    have hsolid : isBlank last = false :=
      hcore last (List.mem_reverse.mp (hlast ▸ List.mem_cons_self))
    have hfirst : isBlank c = false := hcore c (hparts ▸ List.mem_cons_self)
    rw [List.cons_append, trimStart_cons hfirst, ← List.cons_append, ← hparts,
      List.reverse_append, trimStart_append hback, hlast, trimStart_cons hsolid, ← hlast,
      List.reverse_reverse]

end Text

namespace Decimal

variable {digits : List Char}

/-! ## Integers -/

namespace Integer

/-- Digits are read onto a number as long as it fits. -/
theorem magnitude_digits {base limit value : Nat} (hbase : 0 < base) (tooFar : Fault)
    (hdigits : ∀ c ∈ digits, digitValue? base c = some (c.toNat - '0'.toNat))
    (hvalue : value ≤ limit) :
    magnitude base limit tooFar value digits =
      if Nat.ofDigitChars base digits value ≤ limit then
        .ok (Nat.ofDigitChars base digits value)
      else .error tooFar := by
  induction digits generalizing value with
  | nil => rw [magnitude, Nat.ofDigitChars_nil, if_pos hvalue]
  | cons c rest ih =>
    rw [magnitude, hdigits c List.mem_cons_self, Nat.ofDigitChars_cons]
    dsimp only
    split
    · next hfits => exact ih (fun d hd ↦ hdigits d (List.mem_cons_of_mem _ hd)) hfits
    · next htoo =>
      -- The digits that are not read any more could only make the number larger.
      have hmore := Json.le_ofDigitChars hbase rest (base * value + (c.toNat - '0'.toNat))
      rw [if_neg (by omega)]

theorem digitValue?_of_isDigit {c : Char} (h : c.isDigit = true) :
    digitValue? 10 c = some (c.toNat - '0'.toNat) := by
  have hrange : c.toNat ≤ 57 := (Char.isDigit_iff_toNat.mp h).2
  have hsmall : c.toNat - 48 < 10 := by omega
  rw [digitValue?, if_pos h]
  exact Option.filter_some_pos (by simpa using hsmall)

theorem magnitude_toDigits (limit n : Nat) (tooFar : Fault) :
    magnitude 10 limit tooFar 0 (Nat.toDigits 10 n) =
      if n ≤ limit then .ok n else .error tooFar := by
  have hall : ∀ c ∈ Nat.toDigits 10 n, digitValue? 10 c = some (c.toNat - '0'.toNat) :=
    fun c hc ↦ digitValue?_of_isDigit (Nat.isDigit_of_mem_toDigits (by decide) (by decide) hc)
  rw [magnitude_digits (by decide) tooFar hall (Nat.zero_le _), Nat.ofDigitChars_ten_toDigits]

/-- What starts with a digit has no sign. -/
theorem parse_of_isDigit {c : Char} (hc : c.isDigit = true) (base below above : Nat)
    (rest : List Char) :
    parse base below above (c :: rest) =
      (magnitude base above .tooLarge 0 (c :: rest)).map Int.ofNat := by
  have hplus : c ≠ '+' := Json.ne_of_isDigit hc (by decide)
  have hminus : c ≠ '-' := Json.ne_of_isDigit hc (by decide)
  unfold parse
  split <;> simp_all

theorem int64_toDigits (n : Nat) :
    int64 (Nat.toDigits 10 n) = if n ≤ 2 ^ 63 - 1 then .ok n else .error .tooLarge := by
  obtain ⟨c, more, hdigits, hc⟩ := Json.toDigits_eq_isDigit_cons n
  have hpow : Nat.pow 2 63 = 2 ^ 63 := rfl
  rw [int64, hdigits, parse_of_isDigit hc, ← hdigits, magnitude_toDigits, hpow]
  split <;> rfl

theorem int64_minus (n : Nat) :
    int64 ('-' :: Nat.toDigits 10 n) =
      if n ≤ 2 ^ 63 then .ok (-(n : Int)) else .error .tooSmall := by
  obtain ⟨c, more, hdigits, hc⟩ := Json.toDigits_eq_isDigit_cons n
  have hparse : parse 10 (Nat.pow 2 63) (Nat.pow 2 63 - 1) ('-' :: c :: more) =
      (magnitude 10 (Nat.pow 2 63) .tooSmall 0 (c :: more)).map fun n ↦ -(n : Int) := rfl
  have hpow : Nat.pow 2 63 = 2 ^ 63 := rfl
  rw [int64, hdigits, hparse, ← hdigits, magnitude_toDigits, hpow]
  split <;> rfl

end Integer

/-! ## Fractions -/

/-- What starts with a digit is no name. -/
theorem named?_of_isDigit {c : Char} (hc : c.isDigit = true) (rest : List Char) :
    named? (c :: rest) = none := by
  have hrange : 48 ≤ c.toNat ∧ c.toNat ≤ 57 := Char.isDigit_iff_toNat.mp hc
  have hlower : c.toLower = c := by
    refine dif_neg fun hupper ↦ ?_
    have hletter : 65 ≤ c.toNat := UInt32.le_iff_toNat_le.mp hupper.1
    omega
  have hdiffers {word : String} (first : Char) (hword : word.toList.head? = some first)
      (hfirst : 57 < first.toNat) :
      (String.ofList ((c :: rest).map Char.toLower) == word) = false := by
    rw [beq_eq_false_iff_ne]
    rintro rfl
    rw [String.toList_ofList, List.map_cons, hlower] at hword
    obtain rfl := Option.some.inj hword
    omega
  simp only [named?]
  rw [hdiffers 'i' rfl (by decide), hdiffers 'i' rfl (by decide), hdiffers 'n' rfl (by decide)]
  rfl

theorem unsigned?_digits (hsome : digits ≠ []) (hdigits : ∀ c ∈ digits, c.isDigit = true) :
    unsigned? digits = some (ofDecimal (Nat.ofDigitChars 10 digits 0) 0) := by
  have hwhole : digits.takeWhile Char.isDigit = digits := List.takeWhile_eq_self_iff.mpr hdigits
  have hrest : digits.dropWhile Char.isDigit = [] := List.dropWhile_eq_nil_iff.mpr hdigits
  have hempty : (digits.isEmpty && ([] : List Char).isEmpty) = false := by
    rw [List.isEmpty_eq_false_iff.mpr hsome, Bool.false_and]
  have hvalue : digitsValue (digits ++ []) = Nat.ofDigitChars 10 digits 0 := by
    rw [List.append_nil, Nat.ofDigitChars_eq_foldl, digitsValue]
  unfold unsigned?
  simp only [hwhole, hrest, hempty, hvalue]
  rfl

/-- The digits of a number are read as a fraction of one. -/
theorem float?_toDigits (n : Nat) : float? (Nat.toDigits 10 n) = some (ofDecimal n 0) := by
  obtain ⟨c, more, hdigits, hc⟩ := Json.toDigits_eq_isDigit_cons n
  have hall : ∀ c ∈ Nat.toDigits 10 n, c.isDigit = true := fun c hc ↦
    Nat.isDigit_of_mem_toDigits (by decide) (by decide) hc
  have hunsigned : unsigned? (c :: more) = some (ofDecimal n 0) := by
    rw [← hdigits, unsigned?_digits Nat.toDigits_ne_nil hall, Nat.ofDigitChars_ten_toDigits]
  have hplus : c ≠ '+' := Json.ne_of_isDigit hc (by decide)
  have hminus : c ≠ '-' := Json.ne_of_isDigit hc (by decide)
  rw [hdigits]
  unfold float?
  split
  next negative rest hsign =>
    have hunsign : negative = false ∧ rest = c :: more := by
      split at hsign
      · next hparts => exact absurd (List.cons.inj hparts).1 hminus
      · next hparts => exact absurd (List.cons.inj hparts).1 hplus
      · obtain ⟨rfl, rfl⟩ := Prod.mk.inj hsign
        exact ⟨rfl, rfl⟩
    obtain ⟨rfl, rfl⟩ := hunsign
    rw [named?_of_isDigit hc, hunsigned]
    rfl

end Decimal

end Playbook
