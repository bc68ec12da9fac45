import Playbook.Decimal.Layout
import Playbook.Proofs.FloatText.ReadBack
import Playbook.Proofs.Numeral

/-!
# Floats read back from their texts

Every layout writes a finite float as its sign and the digits of its shortest decimal, with a point
or an exponent. Read as a number, the text gives the float again.
-/

namespace Playbook.Decimal

variable {digits whole fraction tail : List Char} {exponent : Int}

/-! ## Digits with zeros -/

theorem digitsValue_eq (digits : List Char) :
    digitsValue digits = Nat.ofDigitChars 10 digits 0 := by
  rw [Nat.ofDigitChars_eq_foldl, digitsValue]

theorem digitsValue_toDigits (n : Nat) : digitsValue (Nat.toDigits 10 n) = n := by
  rw [digitsValue_eq, Nat.ofDigitChars_ten_toDigits]

theorem digitsValue_zero_cons (digits : List Char) :
    digitsValue ('0' :: digits) = digitsValue digits :=
  rfl

theorem digitsValue_append_zero (digits : List Char) :
    digitsValue (digits ++ ['0']) = 10 * digitsValue digits := by
  rw [digitsValue, List.foldl_append]
  rfl

theorem digitsValue_zeros_append (k : Nat) (digits : List Char) :
    digitsValue (List.replicate k '0' ++ digits) = digitsValue digits := by
  induction k with
  | zero => rfl
  | succ k ih => rw [List.replicate_succ, List.cons_append, digitsValue_zero_cons, ih]

theorem digitsValue_append_zeros (digits : List Char) (k : Nat) :
    digitsValue (digits ++ List.replicate k '0') = digitsValue digits * 10 ^ k := by
  induction k with
  | zero => simp
  | succ k ih =>
    rw [List.replicate_succ', ← List.append_assoc, digitsValue_append_zero, ih, pow_succ]
    ring

theorem isDigit_of_mem_toDigits {n : Nat} : ∀ c ∈ Nat.toDigits 10 n, c.isDigit = true := fun _ hc ↦
  Nat.isDigit_of_mem_toDigits (by decide) (by decide) hc

theorem isDigit_of_mem_zeros {k : Nat} : ∀ c ∈ List.replicate k '0', c.isDigit = true := by
  intro c hc
  rw [(List.mem_replicate.1 hc).2]
  rfl

/-! ## The parts of a numeral -/

/-- What has an exponent begins with its marker, if with anything. -/
theorem not_isDigit_of_exponent {c : Char} (h : exponent? (c :: tail) = some exponent) :
    c.isDigit = false ∧ c ≠ '.' := by
  unfold exponent? at h
  dsimp only at h
  split at h
  next hmarker =>
    rw [Bool.or_eq_true, beq_iff_eq, beq_iff_eq] at hmarker
    cases hmarker with
    | inl hlower => exact hlower ▸ by decide
    | inr hupper => exact hupper ▸ by decide
  next => cases h

theorem takeWhile_isDigit_append (hdigits : ∀ c ∈ digits, c.isDigit = true)
    (htail : ∀ c rest, tail = c :: rest → c.isDigit = false) :
    (digits ++ tail).takeWhile Char.isDigit = digits ∧
      (digits ++ tail).dropWhile Char.isDigit = tail := by
  rw [List.takeWhile_append_of_pos hdigits, List.dropWhile_append_of_pos hdigits]
  cases tail with
  | nil => simp
  | cons c rest => simp [htail c rest rfl]

/-- Digits with a point, and perhaps an exponent. -/
theorem unsigned?_point (hsome : whole ≠ []) (hwhole : ∀ c ∈ whole, c.isDigit = true)
    (hfraction : ∀ c ∈ fraction, c.isDigit = true) (htail : exponent? tail = some exponent) :
    unsigned? (whole ++ '.' :: (fraction ++ tail)) =
      some (ofDecimal (digitsValue (whole ++ fraction)) (exponent - fraction.length)) := by
  have hpoint : ∀ c rest, '.' :: (fraction ++ tail) = c :: rest → c.isDigit = false :=
    fun c rest h ↦ (List.cons.inj h).1 ▸ rfl
  have hmarker : ∀ c rest, tail = c :: rest → c.isDigit = false :=
    fun c rest h ↦ (not_isDigit_of_exponent (h ▸ htail)).1
  have hfront := takeWhile_isDigit_append hwhole hpoint
  have hback := takeWhile_isDigit_append hfraction hmarker
  have hempty : (whole.isEmpty && fraction.isEmpty) = false := by
    rw [List.isEmpty_eq_false_iff.mpr hsome, Bool.false_and]
  unfold unsigned?
  simp only [hfront.1, hfront.2, hback.1, hback.2, hempty, htail]
  rfl

/-- Digits with an exponent only. -/
theorem unsigned?_exponent (hsome : whole ≠ []) (hwhole : ∀ c ∈ whole, c.isDigit = true)
    (htail : exponent? tail = some exponent) :
    unsigned? (whole ++ tail) = some (ofDecimal (digitsValue whole) exponent) := by
  have hmarker : ∀ c rest, tail = c :: rest → c.isDigit = false :=
    fun c rest h ↦ (not_isDigit_of_exponent (h ▸ htail)).1
  have hfront := takeWhile_isDigit_append hwhole hmarker
  have hempty : (whole.isEmpty && ([] : List Char).isEmpty) = false := by
    rw [List.isEmpty_eq_false_iff.mpr hsome, Bool.false_and]
  unfold unsigned?
  simp only [hfront.1, hfront.2]
  split
  next more => exact absurd rfl (not_isDigit_of_exponent htail).2
  next =>
    simp only [hempty, htail, List.append_nil]
    exact congrArg (fun e ↦ some (ofDecimal (digitsValue whole) e)) (sub_zero exponent)

/-! ## Exponents -/

theorem toDigits_noneMissing (n : Nat) :
    ((Nat.toDigits 10 n).isEmpty || !(Nat.toDigits 10 n).all Char.isDigit) = false := by
  rw [Bool.or_eq_false_iff, List.isEmpty_eq_false_iff, Bool.not_eq_false', List.all_eq_true]
  exact ⟨Nat.toDigits_ne_nil, isDigit_of_mem_toDigits⟩

theorem exponent?_minus (n : Nat) :
    exponent? ('e' :: '-' :: Nat.toDigits 10 n) = some (-(n : Int)) := by
  simp only [exponent?, toDigits_noneMissing, digitsValue_toDigits]
  rfl

theorem exponent?_plus (n : Nat) :
    exponent? ('e' :: '+' :: Nat.toDigits 10 n) = some (n : Int) := by
  simp only [exponent?, toDigits_noneMissing, digitsValue_toDigits]
  rfl

theorem exponent?_toDigits (n : Nat) : exponent? ('e' :: Nat.toDigits 10 n) = some (n : Int) := by
  obtain ⟨c, more, hdigits, hc⟩ := Json.toDigits_eq_isDigit_cons n
  have hplus : c ≠ '+' := Json.ne_of_isDigit hc (by decide)
  have hminus : c ≠ '-' := Json.ne_of_isDigit hc (by decide)
  have hall := toDigits_noneMissing n
  have hvalue := digitsValue_toDigits n
  have hmarker : ('e' == 'e' || 'e' == 'E') = true := rfl
  rw [hdigits] at hall hvalue ⊢
  simp only [exponent?, hmarker, if_true]
  split
  next hsign => exact absurd (List.cons.inj hsign).1 hminus
  next hsign => exact absurd (List.cons.inj hsign).1 hplus
  next =>
    dsimp only
    rw [hall, hvalue]
    rfl

/-- The exponent of a scientific text is read back. -/
theorem exponent?_text (plus : Bool) (exponent : Int) :
    exponent? ('e' :: ((if plus && 0 ≤ exponent then "+" else "") ++ toString exponent).toList) =
      some exponent := by
  have hspelled : (toString exponent).toList = Json.spelled (.int exponent) := rfl
  rw [String.toList_append, hspelled]
  by_cases hsign : 0 ≤ exponent
  · obtain ⟨n, rfl⟩ := Int.eq_ofNat_of_zero_le hsign
    rw [Json.spelled_int_of_nonneg hsign, Int.toNat_natCast]
    cases plus with
    | true =>
      rw [Bool.true_and, if_pos (decide_eq_true hsign)]
      exact exponent?_plus n
    | false => exact exponent?_toDigits n
  · have hmagnitude : -((-exponent).toNat : Int) = exponent := by omega
    have hno : (plus && decide (0 ≤ exponent)) = false := by simp [hsign]
    have hread := exponent?_minus (-exponent).toNat
    rw [hmagnitude] at hread
    rw [Json.spelled_int_of_neg hsign, hno]
    exact hread

/-! ## Layouts -/

/-- Digits, and behind them a point or the marker of an exponent. -/
def Fractional (text : List Char) : Prop :=
  ∃ whole mark rest, text = whole ++ mark :: rest ∧ whole ≠ [] ∧
    (∀ c ∈ whole, c.isDigit = true) ∧ (mark = '.' ∨ mark = 'e')

namespace Fractional

variable {text : List Char}

theorem exists_cons (h : Fractional text) : ∃ c rest, text = c :: rest ∧ c.isDigit = true := by
  obtain ⟨whole, mark, rest, rfl, hsome, hwhole, -⟩ := h
  obtain ⟨c, more, rfl⟩ := List.exists_cons_of_ne_nil hsome
  exact ⟨c, more ++ mark :: rest, rfl, hwhole c List.mem_cons_self⟩

/-- Behind the first digit comes another one, a point or the marker of an exponent. -/
theorem second (h : Fractional text) {c next : Char} {rest : List Char}
    (htext : text = c :: next :: rest) : next.isDigit = true ∨ next = '.' ∨ next = 'e' := by
  obtain ⟨whole, mark, more, rfl, hsome, hwhole, hmark⟩ := h
  match whole with
  | [] => exact absurd rfl hsome
  | [d] =>
    obtain ⟨-, rfl, -⟩ : d = c ∧ mark = next ∧ more = rest := by simpa using htext
    exact .inr hmark
  | d :: e :: digits =>
    have hnext : e = next := (List.cons.inj (List.cons.inj htext).2).1
    exact .inl (hnext ▸ hwhole e (List.mem_cons_of_mem _ List.mem_cons_self))

/-- There is something other than digits behind the first digit. -/
theorem exists_mark (h : Fractional text) :
    ∃ mark ∈ text.tail, mark.isDigit = false ∧ Integer.digitValue? 10 mark = none := by
  obtain ⟨whole, mark, rest, rfl, hsome, -, hmark⟩ := h
  obtain ⟨c, more, rfl⟩ := List.exists_cons_of_ne_nil hsome
  refine ⟨mark, List.mem_append_right more List.mem_cons_self, ?_⟩
  rcases hmark with rfl | rfl <;> exact ⟨rfl, rfl⟩

end Fractional

/-- A text without sign that reads as a number and is no integer. -/
structure Writes (text : List Char) (number : ℚ) : Prop where
  front : Fractional text
  reads : ∃ significand exponent, unsigned? text = some (ofDecimal significand exponent) ∧
    (significand * 10 ^ exponent : ℚ) = number

theorem writes_point (hsome : whole ≠ []) (hwhole : ∀ c ∈ whole, c.isDigit = true)
    (hfraction : ∀ c ∈ fraction, c.isDigit = true) (htail : exponent? tail = some exponent) :
    Writes (whole ++ '.' :: (fraction ++ tail))
      (digitsValue (whole ++ fraction) * 10 ^ (exponent - fraction.length)) where
  front := ⟨whole, '.', fraction ++ tail, rfl, hsome, hwhole, .inl rfl⟩
  reads := ⟨_, _, unsigned?_point hsome hwhole hfraction htail, rfl⟩

/-- The point before all digits. -/
theorem writes_fraction (hdigits : ∀ c ∈ digits, c.isDigit = true) (k : Nat) :
    Writes ('0' :: '.' :: (List.replicate k '0' ++ digits))
      (digitsValue digits * 10 ^ (-(k : Int) - digits.length)) := by
  have hwrites := @writes_point ['0'] (List.replicate k '0' ++ digits) [] 0
    (List.cons_ne_nil _ _) (@isDigit_of_mem_zeros 1)
    (List.forall_mem_append.2 ⟨isDigit_of_mem_zeros, hdigits⟩) rfl
  have hvalue : digitsValue (['0'] ++ (List.replicate k '0' ++ digits)) = digitsValue digits := by
    rw [List.singleton_append, digitsValue_zero_cons, digitsValue_zeros_append]
  have hexponent : (0 : Int) - (List.replicate k '0' ++ digits).length =
      -(k : Int) - digits.length := by
    rw [List.length_append, List.length_replicate]
    omega
  rw [hvalue, hexponent, List.append_nil] at hwrites
  exact hwrites

/-- The point behind all digits. -/
theorem writes_whole (hsome : digits ≠ []) (hdigits : ∀ c ∈ digits, c.isDigit = true) (k : Nat) :
    Writes (digits ++ List.replicate k '0' ++ ['.', '0'])
      (digitsValue digits * 10 ^ (k : Int)) := by
  have hwrites := @writes_point (digits ++ List.replicate k '0') ['0'] [] 0
    (List.append_ne_nil_of_left_ne_nil hsome _)
    (List.forall_mem_append.2 ⟨hdigits, isDigit_of_mem_zeros⟩)
    (@isDigit_of_mem_zeros 1) rfl
  have hvalue : (digitsValue (digits ++ List.replicate k '0' ++ ['0']) * 10 ^ ((0 : Int) - 1) : ℚ) =
      digitsValue digits * 10 ^ (k : Int) := by
    rw [digitsValue_append_zero, digitsValue_append_zeros, zpow_natCast]
    push_cast
    norm_num
    ring
  rw [← hvalue]
  exact hwrites

/-- The point between two digits. -/
theorem writes_mixed (hdigits : ∀ c ∈ digits, c.isDigit = true) {n : Nat} (hpos : 0 < n)
    (hn : n < digits.length) :
    Writes (digits.take n ++ '.' :: digits.drop n)
      (digitsValue digits * 10 ^ ((n : Int) - digits.length)) := by
  have hsome : digits.take n ≠ [] := by
    rw [← List.length_pos_iff, List.length_take]
    omega
  have hwrites := @writes_point (digits.take n) (digits.drop n) [] 0 hsome
    (fun c hc ↦ hdigits c (List.mem_of_mem_take hc))
    (fun c hc ↦ hdigits c (List.mem_of_mem_drop hc)) rfl
  have hexponent : (0 : Int) - (digits.drop n).length = n - digits.length := by
    rw [List.length_drop]
    omega
  rw [hexponent, List.take_append_drop, List.append_nil] at hwrites
  exact hwrites

theorem writes_positional (p : Point) :
    Writes (positionalText (Nat.toDigits 10 p.significand)
      ((Nat.toDigits 10 p.significand).length + p.exponent)).toList p.value := by
  have hdigits := @isDigit_of_mem_toDigits p.significand
  have hvalue := digitsValue_toDigits p.significand
  have hsome : Nat.toDigits 10 p.significand ≠ [] := Nat.toDigits_ne_nil
  generalize Nat.toDigits 10 p.significand = digits at *
  rw [Point.value, ← hvalue]
  generalize hpoint : (digits.length : Int) + p.exponent = point
  rw [positionalText]
  split
  next hfirst =>
    have hwrites := writes_fraction hdigits (-point).toNat
    have hexponent : -((-point).toNat : Int) - digits.length = p.exponent := by omega
    rw [hexponent] at hwrites
    simpa [zeros] using hwrites
  next hlater =>
    dsimp only
    split
    next hinteger =>
      have hwrites := writes_whole hsome hdigits (point.toNat - digits.length)
      have hexponent : ((point.toNat - digits.length : Nat) : Int) = p.exponent := by omega
      rw [hexponent] at hwrites
      simpa [zeros] using hwrites
    next hinside =>
      have hwrites := @writes_mixed digits hdigits point.toNat (by omega) (by omega)
      have hexponent : (point.toNat : Int) - digits.length = p.exponent := by omega
      rw [hexponent] at hwrites
      simpa using hwrites

theorem writes_scientific (plus : Bool) (p : Point) :
    Writes (scientificText plus (Nat.toDigits 10 p.significand)
      ((Nat.toDigits 10 p.significand).length + p.exponent)).toList p.value := by
  have hdigits := @isDigit_of_mem_toDigits p.significand
  have hvalue := digitsValue_toDigits p.significand
  have hsome : Nat.toDigits 10 p.significand ≠ [] := Nat.toDigits_ne_nil
  generalize Nat.toDigits 10 p.significand = digits at *
  rw [Point.value, ← hvalue]
  unfold scientificText
  dsimp only
  generalize hexponent : (digits.length : Int) + p.exponent - 1 = exponent
  have htail := exponent?_text plus exponent
  have htext (mantissa : String) :
      (mantissa ++ "e" ++ (if plus && 0 ≤ exponent then "+" else "") ++ toString exponent).toList =
        mantissa.toList ++
          'e' :: ((if plus && 0 ≤ exponent then "+" else "") ++ toString exponent).toList := by
    rw [String.append_assoc, String.append_assoc, String.toList_append]
    exact congrArg (mantissa.toList ++ ·) String.toList_append
  rw [htext]
  cases digits with
  | nil => exact absurd rfl hsome
  | cons d others =>
    cases others with
    | nil =>
      have hlast : exponent = p.exponent := by
        rw [List.length_singleton] at hexponent
        omega
      have hreads := unsigned?_exponent (List.cons_ne_nil d []) hdigits htail
      have hmantissa : d.toString.toList = [d] := by simp
      rw [hlast] at hreads ⊢
      dsimp only
      rw [hmantissa]
      exact ⟨⟨[d], 'e', _, rfl, List.cons_ne_nil _ _, hdigits, .inr rfl⟩, _, _, hreads, rfl⟩
    | cons next rest =>
      have hfirst : ∀ c ∈ [d], c.isDigit = true := by
        intro c hc
        exact hdigits c (List.mem_singleton.1 hc ▸ List.mem_cons_self)
      have hmore : ∀ c ∈ next :: rest, c.isDigit = true := fun c hc ↦
        hdigits c (List.mem_cons_of_mem _ hc)
      have hwrites := writes_point (List.cons_ne_nil d []) hfirst hmore htail
      have hlast : exponent - (next :: rest).length = p.exponent := by
        rw [List.length_cons, Nat.cast_succ] at hexponent
        omega
      rw [hlast] at hwrites
      simpa using hwrites

theorem Layout.writes_finite (layout : Layout) (p : Point) :
    Writes (layout.finite p).toList p.value := by
  rw [Layout.finite]
  split
  · exact writes_positional p
  · exact writes_scientific layout.plus p

/-! ## Signs -/

/-- A numeral without sign is read as it is. -/
theorem float?_unsigned {c : Char} (hc : c.isDigit = true) (rest : List Char) :
    float? (c :: rest) = unsigned? (c :: rest) := by
  have hplus : c ≠ '+' := Json.ne_of_isDigit hc (by decide)
  have hminus : c ≠ '-' := Json.ne_of_isDigit hc (by decide)
  unfold float?
  split
  next negative more hsign =>
    have hunsign : negative = false ∧ more = c :: rest := by
      split at hsign
      next hparts => exact absurd (List.cons.inj hparts).1 hminus
      next hparts => exact absurd (List.cons.inj hparts).1 hplus
      next =>
        obtain ⟨rfl, rfl⟩ := Prod.mk.inj hsign
        exact ⟨rfl, rfl⟩
    obtain ⟨rfl, rfl⟩ := hunsign
    rw [named?_of_isDigit hc]
    cases unsigned? (c :: rest) <;> rfl

theorem float?_minus {c : Char} (hc : c.isDigit = true) (rest : List Char) :
    float? ('-' :: c :: rest) = (unsigned? (c :: rest)).map fun x ↦ -x := by
  have hnone := named?_of_isDigit hc rest
  unfold float?
  simp only [hnone]
  rfl

namespace Layout

variable {x : Float}

theorem text_of_finite (layout : Layout) (hfinite : x.isFinite = true) :
    layout.text x = (if isNegative x then "-" else "") ++ layout.finite (shortest x) := by
  rw [isFinite_eq, Bool.and_eq_true, Bool.not_eq_true', Bool.not_eq_true'] at hfinite
  rw [text, hfinite.1, hfinite.2]
  rfl

/-- The text of a finite float reads as that float. -/
theorem float?_text (layout : Layout) (hfinite : x.isFinite = true) :
    float? (layout.text x).toList = some x := by
  obtain ⟨⟨whole, mark, rest, htext, hsome, hwhole, -⟩, significand, exponent, hreads, hnumber⟩ :=
    layout.writes_finite (shortest x)
  have hsigned := withSign_ofDecimal hfinite hnumber
  obtain ⟨c, more, rfl⟩ := List.exists_cons_of_ne_nil hsome
  have hc := hwhole c List.mem_cons_self
  rw [text_of_finite layout hfinite, String.toList_append]
  rw [htext] at hreads ⊢
  cases hsign : isNegative x with
  | true =>
    rw [hsign] at hsigned
    calc float? ('-' :: c :: (more ++ mark :: rest))
      _ = (unsigned? (c :: (more ++ mark :: rest))).map fun x ↦ -x := float?_minus hc _
      _ = some (withSign true (ofDecimal significand exponent)) := by
        rw [← List.cons_append, hreads]
        rfl
      _ = some x := by rw [hsigned]
  | false =>
    rw [hsign] at hsigned
    calc float? (c :: (more ++ mark :: rest))
      _ = unsigned? (c :: (more ++ mark :: rest)) := float?_unsigned hc _
      _ = some (withSign false (ofDecimal significand exponent)) := hreads
      _ = some x := by rw [hsigned]

/-- Two finite floats with the same text are the same. -/
theorem text_injective (layout : Layout) {y : Float} (hx : x.isFinite = true)
    (hy : y.isFinite = true) (h : layout.text x = layout.text y) : x = y := by
  have hread := layout.float?_text hx
  rw [h, layout.float?_text hy] at hread
  exact (Option.some.inj hread).symm

end Layout

end Playbook.Decimal
