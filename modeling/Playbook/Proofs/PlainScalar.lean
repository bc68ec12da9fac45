import Playbook.Proofs.FloatText.Layout
import Playbook.Proofs.Retexting

/-!
# Plain scalars as texts

A boolean or a number at the place of a text counts as its text: the document reads as if that text
were quoted there. It is the spelling in the document exactly for the canonical spellings, which are
the lower-case booleans, the integers of 64 bits without plus sign, base or leading zeros, and the
floats as they are written.
-/

namespace Playbook

namespace Decimal.Integer

variable {base limit value : Nat} {tooFar : Fault} {text : List Char}

/-- What is read onto a number stays within the limit. -/
theorem le_of_magnitude (hvalue : value ≤ limit) {n : Nat}
    (h : magnitude base limit tooFar value text = .ok n) : n ≤ limit := by
  induction text generalizing value with
  | nil => exact Except.ok.inj h ▸ hvalue
  | cons c rest ih =>
    rw [magnitude] at h
    split at h
    next => cases h
    next =>
      split at h
      next hfits => exact ih hfits h
      next => cases h

/-- An integer that is read is in range. -/
theorem bounds_of_parse {below above : Nat} {n : Int} (h : parse base below above text = .ok n) :
    -(below : Int) ≤ n ∧ n ≤ above := by
  have hpositive {digits : List Char}
      (h : (magnitude base above .tooLarge 0 digits).map Int.ofNat = .ok n) :
      -(below : Int) ≤ n ∧ n ≤ above := by
    obtain ⟨k, hk, rfl⟩ := Outline.map_eq_ok.mp h
    have hle := le_of_magnitude (Nat.zero_le _) hk
    rw [Int.ofNat_eq_natCast]
    omega
  unfold parse at h
  split at h
  next => cases h
  next => cases h
  next => cases h
  next => exact hpositive h
  next digits _ =>
    split at h
    next => cases h
    next =>
      cases hread : magnitude base below .tooSmall 0 digits with
      | error fault =>
        rw [hread] at h
        cases h
      | ok k =>
        have hle := le_of_magnitude (Nat.zero_le _) hread
        rw [hread] at h
        obtain rfl : -(k : Int) = n := Except.ok.inj h
        omega
  next => exact hpositive h

/-- A character that is no digit makes a text unreadable. -/
theorem magnitude_ne_ok {c : Char} (hmem : c ∈ text) (hc : digitValue? base c = none) (n : Nat) :
    magnitude base limit tooFar value text ≠ .ok n := by
  induction text generalizing value with
  | nil => cases hmem
  | cons d rest ih =>
    rw [magnitude]
    split
    next =>
      intro h
      cases h
    next hd =>
      split
      next =>
        refine ih ?_
        cases List.mem_cons.mp hmem with
        | inl heq => rw [← heq, hc] at hd; cases hd
        | inr hrest => exact hrest
      next =>
        intro h
        cases h

end Decimal.Integer

namespace Yaml.Node

open Decimal (Layout)

/-- The spellings of booleans and numbers that the program writes itself. -/
inductive Canonical : String → Prop where
  | bool (value : Bool) : Canonical (if value then "true" else "false")
  | int {n : Int} (least : -2 ^ 63 ≤ n) (greatest : n < 2 ^ 64) : Canonical (toString n)
  | float (x : Float) : Canonical (Layout.yaml.text x)

/-! ## Integers -/

theorem eq_ok_of_toOption {ε α : Type} {x : Except ε α} {a : α} (h : x.toOption = some a) :
    x = .ok a := by
  cases x with
  | error _ => cases h
  | ok _ => exact congrArg Except.ok (Option.some.inj h)

theorem eq_some_of_orElse {α : Type} {first second : Option α} {a : α}
    (h : (first.orElse fun _ ↦ second) = some a) : first = some a ∨ second = some a := by
  exact ((Option.orElse_eq_some first second a).mp h).imp_right And.right

theorem bounds_of_unsigned {above : Nat} {text : List Char} {n : Int}
    (h : unsigned? above text = some n) : 0 ≤ n ∧ n ≤ above := by
  have hread {base : Nat} {digits : List Char}
      (h : Decimal.Integer.parse base 0 above digits = .ok n) : 0 ≤ n ∧ n ≤ above := by
    have hbounds := Decimal.Integer.bounds_of_parse h
    omega
  have hdecimal {refused : Bool} {digits : List Char} (h : (if refused then none
      else (Decimal.Integer.parse 10 0 above digits).toOption) = some n) : 0 ≤ n ∧ n ≤ above := by
    split at h
    next => cases h
    next => exact hread (eq_ok_of_toOption h)
  unfold unsigned? at h
  dsimp only at h
  split at h
  next =>
    split at h
    next => exact hdecimal h
    next =>
      split at h
      next => cases h
      next =>
        split at h
        next hparse =>
          obtain rfl := Option.some.inj h
          exact hread hparse
        next => exact hdecimal h
  next => exact hdecimal h

theorem bounds_of_signed {below above : Nat} {text : List Char} {n : Int}
    (h : signed? below above text = some n) : -(below : Int) ≤ n ∧ n ≤ above := by
  cases eq_some_of_orElse h with
  | inl hbased =>
    split at hbased
    next =>
      obtain ⟨base, -, hparse⟩ := Option.bind_eq_some_iff.mp hbased
      exact Decimal.Integer.bounds_of_parse (eq_ok_of_toOption hparse)
    next => cases hbased
  | inr hdecimal =>
    rw [decimalWithin] at hdecimal
    split at hdecimal
    next => cases hdecimal
    next => exact Decimal.Integer.bounds_of_parse (eq_ok_of_toOption hdecimal)

/-- An integer of a document is one of 64 bits, with a sign or without. -/
theorem bounds_of_ofWord {text : List Char} {n : Int} (h : ofWord? 64 text = some n) :
    -2 ^ 63 ≤ n ∧ n < 2 ^ 64 := by
  have hhalf : Nat.pow 2 (64 - 1) = 2 ^ 63 := rfl
  cases eq_some_of_orElse h with
  | inl hunsigned =>
    have hbounds := bounds_of_unsigned hunsigned
    rw [hhalf] at hbounds
    omega
  | inr hsigned =>
    have hbounds := bounds_of_signed hsigned
    rw [hhalf] at hbounds
    omega

/-- A numeral without the mark of a base. -/
def Unmarked (text : List Char) : Prop :=
  ∀ mark digits, text = '0' :: mark :: digits → base? mark = none

theorem unsigned?_unmarked {c : Char} {rest : List Char} (hc : c.isDigit = true)
    (hunmarked : Unmarked (c :: rest)) (above : Nat) :
    unsigned? above (c :: rest) = if hasLeadingZero (c :: rest) then none
      else (Decimal.Integer.parse 10 0 above (c :: rest)).toOption := by
  have hplus : c ≠ '+' := Json.ne_of_isDigit hc (by decide)
  have hminus : c ≠ '-' := Json.ne_of_isDigit hc (by decide)
  have hsign : startsWithSign (c :: rest) = false := by
    unfold startsWithSign
    split <;> simp_all
  unfold unsigned?
  split
  next => simp_all
  next =>
    dsimp only
    rw [hsign, Bool.false_or]
    split
    next mark digits hparts => rw [hunmarked mark digits hparts]
    next => rfl

theorem unsigned?_minus (above : Nat) (rest : List Char) : unsigned? above ('-' :: rest) = none :=
  rfl

theorem signed?_unmarked {c : Char} {rest : List Char} (hc : c.isDigit = true)
    (below above : Nat) :
    signed? below above (c :: rest) = decimalWithin below above (c :: rest) := by
  have hminus : c ≠ '-' := Json.ne_of_isDigit hc (by decide)
  unfold signed?
  split
  next hparts => exact absurd (List.cons.inj hparts).1 hminus
  next => rfl

theorem signed?_minus {rest : List Char} (hunmarked : Unmarked rest) (below above : Nat) :
    signed? below above ('-' :: rest) = decimalWithin below above ('-' :: rest) := by
  unfold signed?
  split
  next mark digits hparts =>
    rw [hunmarked mark digits (List.cons.inj hparts).2]
    rfl
  next => rfl

theorem unmarked_toDigits (n : Nat) : Unmarked (Nat.toDigits 10 n) := by
  intro mark digits hparts
  cases n with
  | zero => cases hparts
  | succ n =>
    obtain ⟨c, more, hdigits, hc⟩ := Json.toDigits_eq_cons n.succ_pos
    exact absurd (List.cons.inj (hdigits.symm.trans hparts)).1 hc

theorem dropSign_toDigits (n : Nat) : dropSign (Nat.toDigits 10 n) = Nat.toDigits 10 n := by
  obtain ⟨c, more, hdigits, hc⟩ := Json.toDigits_eq_isDigit_cons n
  have hplus : c ≠ '+' := Json.ne_of_isDigit hc (by decide)
  have hminus : c ≠ '-' := Json.ne_of_isDigit hc (by decide)
  rw [hdigits]
  unfold dropSign
  split <;> simp_all

theorem hasLeadingZero_toDigits {text : List Char} {n : Nat}
    (h : dropSign text = Nat.toDigits 10 n) : hasLeadingZero text = false := by
  rw [hasLeadingZero, h]
  split
  next d rest hparts =>
    cases n with
    | zero => cases hparts
    | succ n =>
      obtain ⟨c, more, hdigits, hc⟩ := Json.toDigits_eq_cons n.succ_pos
      exact absurd (List.cons.inj (hdigits.symm.trans hparts)).1 hc
  next => rfl

theorem parse_toDigits (below above n : Nat) :
    Decimal.Integer.parse 10 below above (Nat.toDigits 10 n) =
      if n ≤ above then .ok n else .error .tooLarge := by
  obtain ⟨c, more, hdigits, hc⟩ := Json.toDigits_eq_isDigit_cons n
  rw [hdigits, Decimal.Integer.parse_of_isDigit hc, ← hdigits,
    Decimal.Integer.magnitude_toDigits]
  split <;> rfl

/-- The digits of a number of 64 bits read as that number. -/
theorem ofWord?_toDigits {n : Nat} (hn : n < 2 ^ 64) :
    ofWord? 64 (Nat.toDigits 10 n) = some (n : Int) := by
  obtain ⟨c, more, hdigits, hc⟩ := Json.toDigits_eq_isDigit_cons n
  have hunmarked := unmarked_toDigits n
  have hzero := hasLeadingZero_toDigits (dropSign_toDigits n)
  have hparse := parse_toDigits 0 (2 * Nat.pow 2 (64 - 1) - 1) n
  have hhalf : Nat.pow 2 (64 - 1) = 2 ^ 63 := rfl
  rw [hhalf, if_pos (by omega)] at hparse
  rw [hdigits] at hunmarked hzero hparse ⊢
  rw [ofWord?, hhalf, unsigned?_unmarked hc hunmarked, hzero, hparse]
  rfl

theorem ofWord?_minus {n : Nat} (hn : n ≤ 2 ^ 63) :
    ofWord? 64 ('-' :: Nat.toDigits 10 n) = some (-(n : Int)) := by
  have hhalf : Nat.pow 2 (64 - 1) = Nat.pow 2 63 := rfl
  have hzero : hasLeadingZero ('-' :: Nat.toDigits 10 n) = false := hasLeadingZero_toDigits rfl
  have hparse : Decimal.Integer.parse 10 (Nat.pow 2 63) (Nat.pow 2 63 - 1)
      ('-' :: Nat.toDigits 10 n) = .ok (-(n : Int)) := by
    have hint := Decimal.Integer.int64_minus n
    rw [if_pos hn] at hint
    exact hint
  rw [ofWord?, hhalf, unsigned?_minus, signed?_minus (unmarked_toDigits n), decimalWithin, hzero,
    if_neg Bool.false_ne_true, hparse]
  rfl

/-! ## Plain scalars -/

/-- What starts like a number is none of the words. -/
theorem ofPlain_of_numeral {text : String} {c : Char} {rest : List Char}
    (htext : text.toList = c :: rest) (hc : c.isDigit = true ∨ c = '-') :
    ofPlain text = match integer? text.toList with
      | some number => number.map .int
      | none =>
        if hasLeadingZero text.toList then .ok (.str text)
        else match float? text.toList with
          | some value => .ok (.float value)
          | none => .ok (.str text) := by
  have hword {words : List String}
      (hwords : (words.all fun word ↦
        word.toList.head?.all fun d ↦ !d.isDigit && d != '-') = true) : text ∉ words := by
    intro hmem
    have hfirst := List.all_eq_true.mp hwords text hmem
    rw [htext] at hfirst
    simp only [List.head?_cons, Option.all_some, Bool.and_eq_true, Bool.not_eq_true',
      bne_iff_ne] at hfirst
    cases hc with
    | inl hc =>
      rw [hc] at hfirst
      cases hfirst.1
    | inr hc => exact hfirst.2 hc
  have hempty : text ≠ "" := by
    rintro rfl
    cases htext
  have hnull : (text == "" || decide (text ∈ nullWords)) = false := by
    rw [Bool.or_eq_false_iff, beq_eq_false_iff_ne, decide_eq_false_iff_not]
    exact ⟨hempty, hword rfl⟩
  have hbool : boolOf? text = none := by
    rw [boolOf?, if_neg (hword rfl), if_neg (hword rfl)]
  unfold ofPlain
  dsimp only
  rw [hnull, hbool]
  rfl

theorem ofPlain_bool (value : Bool) :
    ofPlain (if value then "true" else "false") = .ok (.bool value) := by
  cases value <;> rfl

theorem ofPlain_int {n : Int} (hleast : -2 ^ 63 ≤ n) (hgreatest : n < 2 ^ 64) :
    ofPlain (toString n) = .ok (.int n) := by
  have hspelled : (toString n).toList = Json.spelled (.int n) := rfl
  have hread : integer? (toString n).toList = some (.ok n) ∧
      ∃ c rest, (toString n).toList = c :: rest ∧ (c.isDigit = true ∨ c = '-') := by
    rw [hspelled, integer?]
    by_cases hsign : 0 ≤ n
    · obtain ⟨m, rfl⟩ := Int.eq_ofNat_of_zero_le hsign
      obtain ⟨c, more, hdigits, hc⟩ := Json.toDigits_eq_isDigit_cons m
      rw [Json.spelled_int_of_nonneg hsign, Int.toNat_natCast, ofWord?_toDigits (by omega)]
      exact ⟨rfl, c, more, hdigits, .inl hc⟩
    · have hmagnitude : -((-n).toNat : Int) = n := by omega
      rw [Json.spelled_int_of_neg hsign, ofWord?_minus (by omega), hmagnitude]
      exact ⟨rfl, _, _, rfl, .inr rfl⟩
  obtain ⟨hinteger, c, rest, htext, hc⟩ := hread
  rw [ofPlain_of_numeral htext hc, hinteger]
  rfl

/-! ## Floats -/

section fractional

open Decimal (Fractional)

variable {text : List Char}

theorem unmarked_of_fractional (h : Fractional text) : Unmarked text := by
  intro mark digits hparts
  have hbase {other : Char} (hother : other.isDigit = false ∧ other ≠ '.' ∧ other ≠ 'e') :
      mark ≠ other := by
    rintro rfl
    rcases h.second hparts with hdigit | rfl | rfl
    · rw [hother.1] at hdigit
      cases hdigit
    · exact hother.2.1 rfl
    · exact hother.2.2 rfl
  unfold base?
  split
  next => exact absurd rfl (hbase (by decide))
  next => exact absurd rfl (hbase (by decide))
  next => exact absurd rfl (hbase (by decide))
  next => rfl

theorem hasLeadingZero_of_fractional {signed : List Char} (h : Fractional text)
    (hsigned : dropSign signed = text) : hasLeadingZero signed = false := by
  obtain ⟨mark, hmem, hdigit, -⟩ := h.exists_mark
  rw [hasLeadingZero, hsigned]
  split
  next d rest =>
    rw [List.all_eq_false]
    exact ⟨mark, hmem, by rw [hdigit]; exact Bool.false_ne_true⟩
  next => rfl

theorem toOption_parse_of_fractional (h : Fractional text) (below above : Nat) :
    (Decimal.Integer.parse 10 below above text).toOption = none ∧
      (Decimal.Integer.parse 10 below above ('-' :: text)).toOption = none := by
  obtain ⟨mark, hmem, -, hmark⟩ := h.exists_mark
  obtain ⟨c, rest, rfl, hc⟩ := h.exists_cons
  have hmagnitude (limit : Nat) (tooFar : Decimal.Integer.Fault) (n : Nat) :
      Decimal.Integer.magnitude 10 limit tooFar 0 (c :: rest) ≠ .ok n :=
    Decimal.Integer.magnitude_ne_ok (List.mem_of_mem_tail hmem) hmark n
  constructor
  · rw [Decimal.Integer.parse_of_isDigit hc]
    cases hread : Decimal.Integer.magnitude 10 above .tooLarge 0 (c :: rest) with
    | error fault => rfl
    | ok n => exact absurd hread (hmagnitude _ _ n)
  · have hparse : Decimal.Integer.parse 10 below above ('-' :: c :: rest) =
        if below == 0 then .error .digit
        else (Decimal.Integer.magnitude 10 below .tooSmall 0 (c :: rest)).map
          fun n ↦ -(n : Int) := rfl
    rw [hparse]
    split
    next => rfl
    next =>
      cases hread : Decimal.Integer.magnitude 10 below .tooSmall 0 (c :: rest) with
      | error fault => rfl
      | ok n => exact absurd hread (hmagnitude _ _ n)

/-- A fraction is no integer, with a sign or without. -/
theorem ofWord?_of_fractional (h : Fractional text) (bits : Nat) :
    ofWord? bits text = none ∧ ofWord? bits ('-' :: text) = none := by
  have hunmarked := unmarked_of_fractional h
  have hparse := toOption_parse_of_fractional h
  obtain ⟨c, rest, rfl, hc⟩ := h.exists_cons
  constructor
  · rw [ofWord?, unsigned?_unmarked hc hunmarked, signed?_unmarked hc, decimalWithin]
    rw [(hparse _ _).1, (hparse _ _).1]
    split <;> rfl
  · rw [ofWord?, unsigned?_minus, signed?_minus hunmarked, decimalWithin]
    rw [(hparse _ _).2]
    split <;> rfl

theorem integer?_of_fractional (h : Fractional text) :
    integer? text = none ∧ integer? ('-' :: text) = none := by
  rw [integer?, integer?, (ofWord?_of_fractional h 64).1, (ofWord?_of_fractional h 64).2,
    (ofWord?_of_fractional h 128).1, (ofWord?_of_fractional h 128).2]
  exact ⟨rfl, rfl⟩

/-- A fraction is none of the words for what is no finite number. -/
theorem float?_of_fractional {signed : List Char} (h : Fractional (dropSign signed))
    (hplus : signed.head? ≠ some '+') :
    float? signed = (Decimal.float? signed).filter Float.isFinite := by
  obtain ⟨c, rest, hparts, hc⟩ := h.exists_cons
  have hword {words : List String}
      (hwords : (words.all fun word ↦ (dropSign word.toList).head? == some '.') = true) :
      String.ofList signed ∉ words := by
    intro hmem
    have hfirst := List.all_eq_true.mp hwords _ hmem
    rw [String.toList_ofList, hparts, beq_iff_eq] at hfirst
    obtain rfl := Option.some.inj hfirst
    cases hc
  have hhead : (signed.head? == some '+') = false := beq_eq_false_iff_ne.mpr hplus
  unfold float?
  split
  next => cases hhead
  next =>
    dsimp only
    rw [hhead, Bool.false_and, if_neg Bool.false_ne_true, if_neg (hword rfl), if_neg (hword rfl),
      if_neg (hword rfl)]

/-- A fraction, with a minus sign or without, is the float that its text reads as. -/
theorem ofPlain_of_fractional (h : Fractional text) {spelled : String}
    (hspelled : spelled.toList = text ∨ spelled.toList = '-' :: text) {x : Float}
    (hread : Decimal.float? spelled.toList = some x) (hfinite : x.isFinite = true) :
    ofPlain spelled = .ok (.float x) := by
  obtain ⟨c, rest, hparts, hc⟩ := h.exists_cons
  have hplus : c ≠ '+' := Json.ne_of_isDigit hc (by decide)
  have hminus : c ≠ '-' := Json.ne_of_isDigit hc (by decide)
  have hdrop : dropSign text = text := by
    rw [hparts]
    unfold dropSign
    split <;> simp_all
  cases hspelled with
  | inl hplain =>
    have hhead : text.head? ≠ some '+' := by
      rw [hparts]
      exact mt Option.some.inj hplus
    rw [hplain] at hread
    rw [ofPlain_of_numeral (hplain.trans hparts) (.inl hc), hplain, (integer?_of_fractional h).1]
    dsimp only
    rw [hasLeadingZero_of_fractional h hdrop, float?_of_fractional (hdrop.symm ▸ h) hhead, hread,
      Option.filter_some_pos hfinite]
    rfl
  | inr hnegative =>
    have hhead : ('-' :: text).head? ≠ some '+' := nofun
    rw [hnegative] at hread
    rw [ofPlain_of_numeral hnegative (.inr rfl), hnegative, (integer?_of_fractional h).2]
    dsimp only
    have hsigned : Fractional (dropSign ('-' :: text)) := h
    rw [hasLeadingZero_of_fractional h rfl, float?_of_fractional hsigned hhead, hread,
      Option.filter_some_pos hfinite]
    rfl

end fractional

/-- A finite float reads as itself. -/
theorem ofPlain_float {x : Float} (hfinite : x.isFinite = true) :
    ofPlain (Layout.yaml.text x) = .ok (.float x) := by
  apply ofPlain_of_fractional (Layout.yaml.writes_finite (Decimal.shortest x)).front _
    (Layout.yaml.float?_text hfinite) hfinite
  rw [Layout.yaml.text_of_finite hfinite, String.toList_append]
  cases Decimal.isNegative x with
  | true => exact .inr rfl
  | false => exact .inl rfl

/-- What is no finite number has one of three texts, which are read as what they name. -/
theorem ofPlain_special {x : Float} (h : x.isFinite = false) :
    ∃ y, ofPlain (Layout.yaml.text x) = .ok (.float y) ∧
      Layout.yaml.text y = Layout.yaml.text x := by
  rw [Decimal.isFinite_eq] at h
  cases hnumber : x.isNaN with
  | true =>
    have htext : Layout.yaml.text x = ".nan" := if_pos hnumber
    rw [htext]
    exact ⟨.ofBits 0x7FF8000000000000, rfl, if_pos rfl⟩
  | false =>
    have hinfinite : x.isInf = true := by
      rw [hnumber, Bool.not_false, Bool.true_and, Bool.not_eq_false'] at h
      exact h
    have htext {y : Float} (hnumber : y.isNaN = false) (hinfinite : y.isInf = true) :
        Layout.yaml.text y = if Decimal.isNegative y then "-.inf" else ".inf" := by
      rw [Layout.text, hnumber, hinfinite]
      rfl
    rw [htext hnumber hinfinite]
    cases Decimal.isNegative x with
    | true => exact ⟨.ofBits 0xFFF0000000000000, rfl, htext rfl rfl⟩
    | false => exact ⟨.ofBits 0x7FF0000000000000, rfl, htext rfl rfl⟩

/-! ## Canonical spellings -/

theorem scalar?_of_canonical {text : String} (h : Canonical text) {node : Node}
    (hread : ofPlain text = .ok node) : node.scalar? = some text := by
  cases h with
  | bool value =>
    rw [ofPlain_bool] at hread
    obtain rfl := Except.ok.inj hread
    rfl
  | int least greatest =>
    rw [ofPlain_int least greatest] at hread
    obtain rfl := Except.ok.inj hread
    rfl
  | float x =>
    cases hfinite : x.isFinite with
    | true =>
      rw [ofPlain_float hfinite] at hread
      obtain rfl := Except.ok.inj hread
      rfl
    | false =>
      obtain ⟨y, hy, htext⟩ := ofPlain_special hfinite
      rw [hy] at hread
      obtain rfl := Except.ok.inj hread
      rw [scalar?, htext]

theorem bounds_of_ofPlain {text : String} {n : Int} (h : ofPlain text = .ok (.int n)) :
    -2 ^ 63 ≤ n ∧ n < 2 ^ 64 := by
  unfold ofPlain at h
  dsimp only at h
  split at h
  next => cases h
  next =>
    split at h
    next => cases h
    next =>
      split at h
      next number hinteger =>
        obtain ⟨m, rfl, hm⟩ := Outline.map_eq_ok.mp h
        obtain rfl := Node.int.inj hm
        rw [integer?] at hinteger
        split at hinteger
        next hword =>
          obtain rfl := Except.ok.inj (Option.some.inj hinteger)
          exact bounds_of_ofWord hword
        next =>
          split at hinteger <;> cases hinteger
      next =>
        split at h
        next => cases h
        next => split at h <;> cases h

/-- A boolean or number that is read has the spelling in the document as its text exactly if that
is canonical. -/
theorem scalar?_ofPlain {text : String} {node : Node} (hread : ofPlain text = .ok node)
    (hkind : node.kind = .boolean ∨ node.kind = .number) :
    node.scalar? = some text ↔ Canonical text := by
  constructor
  · intro htext
    cases node with
    | bool value => exact Option.some.inj htext ▸ .bool value
    | int n =>
      obtain ⟨hleast, hgreatest⟩ := bounds_of_ofPlain hread
      exact Option.some.inj htext ▸ .int hleast hgreatest
    | float x => exact Option.some.inj htext ▸ .float x
    | null | str _ | seq _ | map _ | tagged _ _ => rcases hkind with h | h <;> cases h
  · exact fun hcanonical ↦ scalar?_of_canonical hcanonical hread

end Yaml.Node

namespace Document

open Yaml (Node)

/-- A plain scalar that is a boolean or a number reads at the place of a text, wherever the element
is, as some text would that is quoted there. That is the text of the scalar itself exactly if its
spelling is canonical. -/
theorem ofNode_plain {text : String} {node : Node}
    (hread : Node.ofScalar none text true = .ok node)
    (hkind : node.kind = .boolean ∨ node.kind = .number) :
    ∃ spelled, (spelled = text ↔ Node.Canonical text) ∧
      ∀ registry quoted items items', Node.ofScalar none spelled false = .ok quoted →
        Rewrites (RetextedElement node quoted) items items' →
        ofNode registry (.seq items) = ofNode registry (.seq items') := by
  obtain ⟨spelled, hspelled⟩ : ∃ spelled, node.scalar? = some spelled := by
    cases node with
    | bool value => exact ⟨_, rfl⟩
    | int n => exact ⟨_, rfl⟩
    | float x => exact ⟨_, rfl⟩
    | null | str _ | seq _ | map _ | tagged _ _ => rcases hkind with h | h <;> cases h
  refine ⟨spelled, ?_, ?_⟩
  · rw [← Node.scalar?_ofPlain hread hkind, hspelled, Option.some.injEq]
  · intro registry quoted items items' hquoted hrewrites
    obtain rfl : Node.str spelled = quoted := Except.ok.inj hquoted
    exact ofNode_retexted hspelled (by rw [hspelled]; rfl) hrewrites

theorem ofNode_plain_hexadecimal :
    Node.ofScalar none "0x10" true = .ok (.int 16) ∧ (Node.int 16).kind = .number ∧
      ∃ spelled, (spelled = "0x10" ↔ Node.Canonical "0x10") ∧
        ∀ registry quoted items items', Node.ofScalar none spelled false = .ok quoted →
          Rewrites (RetextedElement (.int 16) quoted) items items' →
          ofNode registry (.seq items) = ofNode registry (.seq items') :=
  ⟨rfl, rfl, ofNode_plain rfl (.inr rfl)⟩

/-- An element with the given name. -/
def named (name : Node) : Node :=
  .map [(.str "name", name), (.str "shell", .map [])]

/-- A hexadecimal name becomes a decimal one, unless it is quoted. -/
theorem ofNode_hexadecimal : ∃ plain quoted registry tree tree',
    Node.ofScalar none "0x10" true = .ok plain ∧ Node.ofScalar none "0x10" false = .ok quoted ∧
      Registry.ofKinds TaskKind.standard = .ok registry ∧
      ofNode registry (.seq [named plain]) = .ok tree ∧
      ofNode registry (.seq [named quoted]) = .ok tree' ∧
      (tree.get? 0).map (·.name) = some (some "16") ∧
      (tree'.get? 0).map (·.name) = some (some "0x10") :=
  ⟨_, _, _, _, _, rfl, rfl, rfl, rfl, rfl, rfl, rfl⟩

end Document

end Playbook
