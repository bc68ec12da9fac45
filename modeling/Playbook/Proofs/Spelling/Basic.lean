import Mathlib.Data.List.Basic
import Mathlib.Tactic.IntervalCases
import Playbook.Json.Reading

/-!
# How values are spelled

The compact text of a value as a list of characters, and the reading of its smallest parts. An
escaped character is read as that character, so that a string is read back whatever is in it; and an
integer is read back when it fits in 64 bits, with or without a sign, as long as no character
follows that could belong to a number.
-/

namespace Playbook.Json

/-! ## Texts as characters -/

/-- The characters between the quotes of a string. -/
def spelledText (text : String) : List Char :=
  text.toList.flatMap fun c ↦ (escapeChar c).toList

theorem toList_escape (text : String) :
    (escape text).toList = '\"' :: (spelledText text ++ ['\"']) := by
  have hfold (chars : List Char) (out : String) :
      (chars.foldl (fun out c ↦ out ++ escapeChar c) out).toList =
        out.toList ++ chars.flatMap fun c ↦ (escapeChar c).toList := by
    induction chars generalizing out with
    | nil => simp
    | cons c rest ih => rw [List.foldl_cons, ih, String.toList_append, List.flatMap_cons,
        List.append_assoc]
  rw [escape, String.toList_append, hfold]
  rfl

mutual

/-- The characters of the compact text of a value. -/
def spelled : Json → List Char
  | .arr items => '[' :: (spelledItems [] items ++ [']'])
  | .obj fields => '\x7b' :: (spelledFields [] fields ++ ['\x7d'])
  | other => (scalarText other).toList

def spelledItems (separator : List Char) : List Json → List Char
  | [] => []
  | item :: rest => separator ++ spelled item ++ spelledItems [','] rest

def spelledFields (separator : List Char) : List (String × Json) → List Char
  | [] => []
  | (key, value) :: rest =>
    separator ++ '\"' :: (spelledText key ++ '\"' :: ':' :: spelled value) ++
      spelledFields [','] rest

end

mutual

theorem toList_compactOnto (out : String) : (value : Json) →
    (compactOnto out value).toList = out.toList ++ spelled value
  | .arr items => by
    rw [compactOnto, String.toList_append, toList_compactItems (out ++ "[") "" items, spelled]
    simp
  | .obj fields => by
    rw [compactOnto, String.toList_append, toList_compactFields (out ++ "\x7b") "" fields, spelled]
    simp
  | .null | .bool _ | .int _ | .float _ | .str _ => String.toList_append

theorem toList_compactItems (out separator : String) : (items : List Json) →
    (compactItems out separator items).toList =
      out.toList ++ spelledItems separator.toList items
  | [] => by
    rw [compactItems, spelledItems, List.append_nil]
  | item :: rest => by
    rw [compactItems, toList_compactItems _ "," rest, toList_compactOnto _ item,
      String.toList_append, spelledItems]
    simp

theorem toList_compactFields (out separator : String) : (fields : List (String × Json)) →
    (compactFields out separator fields).toList =
      out.toList ++ spelledFields separator.toList fields
  | [] => by
    rw [compactFields, spelledFields, List.append_nil]
  | (key, value) :: rest => by
    rw [compactFields, toList_compactFields _ "," rest, toList_compactOnto _ value,
      spelledFields]
    simp [toList_escape]

end

theorem toList_compact (value : Json) : value.compact.toList = spelled value := by
  rw [compact, toList_compactOnto]
  rfl

/-! ## Strings -/

/-- A control character is the value of the four hexadecimal digits that it is written with. -/
theorem hexUnit_control {n : Nat} (h : n < 0x20) (rest : List Char) :
    hexUnit ('0' :: '0' :: (if n < 0x10 then '0' else '1') :: (n % 16).digitChar :: rest) =
      .ok n := by
  interval_cases n <;> rfl

theorem toList_escapeChar_control {c : Char} (hc : c.toNat < 0x20)
    (hnamed : c ∉ ['\n', '\r', '\t', '\x08', '\x0C']) :
    (escapeChar c).toList =
      ['\\', 'u', '0', '0', if c.toNat < 0x10 then '0' else '1', (c.toNat % 16).digitChar] := by
  have hquote : c ≠ '\"' := by
    rintro rfl
    exact absurd hc (by decide)
  have hslash : c ≠ '\\' := by
    rintro rfl
    exact absurd hc (by decide)
  simp only [List.mem_cons, List.not_mem_nil, or_false, not_or] at hnamed
  obtain ⟨hn, hr, ht, hb, hf⟩ := hnamed
  have hdigit : Nat.toDigits 16 (c.toNat % 16) = [(c.toNat % 16).digitChar] :=
    Nat.toDigits_of_lt_base (Nat.mod_lt _ (by decide))
  simp only [escapeChar, beq_iff_eq, hquote, hslash, hn, hr, ht, hb, hf, hc, if_false, if_true,
    String.toList_append, Text.hexText, String.toList_ofList, hdigit]
  split <;> rfl

theorem unicodeEscape_control {c : Char} (hc : c.toNat < 0x20) (rest : List Char) :
    unicodeEscape ('0' :: '0' :: (if c.toNat < 0x10 then '0' else '1') ::
      (c.toNat % 16).digitChar :: rest) = .ok (c, 4) := by
  rw [unicodeEscape, hexUnit_control hc]
  have hlow : ¬ 0xDC00 ≤ c.toNat := by omega
  have hhigh : c.toNat < 0xD800 := by omega
  simp only [bind, Except.bind, hlow, hhigh, decide_false, decide_true, Bool.false_and,
    Bool.true_or, Bool.false_eq_true, if_false, if_true, Char.ofNat_toNat]
  rfl

/-- An escaped character is read as that character. -/
theorem stringBody_escapeChar (c : Char) (read rest : List Char) :
    stringBody read ((escapeChar c).toList ++ rest) = stringBody (c :: read) rest := by
  by_cases hescaped : c ∈ ['\"', '\\', '\n', '\r', '\t', '\x08', '\x0C']
  · simp only [List.mem_cons, List.not_mem_nil, or_false] at hescaped
    rcases hescaped with rfl | rfl | rfl | rfl | rfl | rfl | rfl
    all_goals simp [escapeChar, stringBody, escapeSequence]
  · by_cases hc : c.toNat < 0x20
    · have hnamed : c ∉ ['\n', '\r', '\t', '\x08', '\x0C'] := by
        intro hmem
        exact hescaped (List.mem_cons_of_mem _ (List.mem_cons_of_mem _ hmem))
      rw [toList_escapeChar_control hc hnamed]
      simp only [List.cons_append, List.nil_append]
      rw [stringBody, escapeSequence, unicodeEscape_control hc]
      rfl
    · simp only [List.mem_cons, List.not_mem_nil, or_false, not_or] at hescaped
      obtain ⟨hquote, hslash, hn, hr, ht, hb, hf⟩ := hescaped
      have hplain : (escapeChar c).toList = [c] := by
        simp [escapeChar, hquote, hslash, hn, hr, ht, hb, hf, hc]
      rw [hplain, List.singleton_append, stringBody]
      · rw [if_neg hc]
      · exact hquote
      · exact hslash

theorem stringBody_spelledText (text : String) (rest : List Char) :
    stringBody [] (spelledText text ++ '\"' :: rest) = .ok (text, rest) := by
  have hread (chars read : List Char) :
      stringBody read (chars.flatMap (fun c ↦ (escapeChar c).toList) ++ '\"' :: rest) =
        .ok (String.ofList (read.reverse ++ chars), rest) := by
    induction chars generalizing read with
    | nil =>
      rw [List.flatMap_nil, List.nil_append, List.append_nil]
      simp [stringBody]
    | cons c more ih =>
      rw [List.flatMap_cons, List.append_assoc, stringBody_escapeChar, ih, List.reverse_cons,
        List.append_assoc]
      rfl
  rw [spelledText, hread]
  simp

/-! ## Integers -/

/-- What may follow a value inside of a list or an object, or at the end of a text. -/
def Closes (rest : List Char) : Prop :=
  ∀ c ∈ rest.head?, c ∈ [',', ']', '\x7d']

theorem closes_cons {c : Char} (h : c ∈ [',', ']', '\x7d']) (rest : List Char) :
    Closes (c :: rest) := by
  intro found hfound
  obtain rfl := Option.mem_some.mp hfound
  exact h

theorem not_isDigit_of_closes {c : Char} {rest : List Char} (h : Closes (c :: rest)) :
    c.isDigit = false := by
  have hmem := h c rfl
  simp only [List.mem_cons, List.not_mem_nil, or_false] at hmem
  rcases hmem with rfl | rfl | rfl <;> rfl

/-- Reading more digits makes no number smaller. -/
theorem le_ofDigitChars {base : Nat} (hbase : 0 < base) (digits : List Char) (value : Nat) :
    value ≤ Nat.ofDigitChars base digits value := by
  induction digits generalizing value with
  | nil => rw [Nat.ofDigitChars_nil]
  | cons c rest ih =>
    rw [Nat.ofDigitChars_cons]
    calc value ≤ base * value := Nat.le_mul_of_pos_left value hbase
      _ ≤ base * value + (c.toNat - '0'.toNat) := Nat.le_add_right _ _
      _ ≤ _ := ih _

/-- Digits are read as the number they make as long as it fits. -/
theorem readDigits_append {digits rest : List Char} (hdigits : ∀ c ∈ digits, c.isDigit = true)
    (hrest : Closes rest) {significand : Nat} (used : Nat)
    (hfits : Nat.ofDigitChars 10 digits significand ≤ maxSignificand) :
    readDigits significand used (digits ++ rest) =
      (Nat.ofDigitChars 10 digits significand, used + digits.length, 0, rest) := by
  induction digits generalizing significand used with
  | nil =>
    cases rest with
    | nil => rfl
    | cons c more =>
      rw [List.nil_append, readDigits, not_isDigit_of_closes hrest]
      rfl
  | cons c more ih =>
    have hmore : ∀ found ∈ more, found.isDigit = true := fun found hmem ↦
      hdigits found (List.mem_cons_of_mem _ hmem)
    have hvalue : Nat.ofDigitChars 10 (c :: more) significand =
        Nat.ofDigitChars 10 more (10 * significand + digitOf c) := Nat.ofDigitChars_cons
    rw [hvalue] at hfits ⊢
    have hstep : 10 * significand + digitOf c ≤ maxSignificand :=
      (le_ofDigitChars (by decide) more _).trans hfits
    rw [List.cons_append, readDigits, hdigits c List.mem_cons_self, if_pos rfl, if_pos hstep,
      ih hmore (used + 1) hfits, List.length_cons, Nat.add_assoc, Nat.add_comm 1]

/-- The digits of a positive number do not start with zero. -/
theorem toDigits_eq_cons {n : Nat} (hn : 0 < n) :
    ∃ c more, Nat.toDigits 10 n = c :: more ∧ c ≠ '0' := by
  induction n using Nat.strong_induction_on with
  | _ n ih =>
    by_cases hsmall : n < 10
    · refine ⟨n.digitChar, [], Nat.toDigits_of_lt_base hsmall, ?_⟩
      interval_cases n <;> decide
    · have hquotient : 0 < n / 10 := by omega
      obtain ⟨c, more, hdigits, hc⟩ := ih (n / 10) (by omega) hquotient
      refine ⟨c, more ++ [(n % 10).digitChar], ?_, hc⟩
      rw [Nat.toDigits_of_base_le (by decide) (by omega), hdigits, List.cons_append]

theorem number_toDigits {n : Nat} (hn : n ≤ maxSignificand) {rest : List Char}
    (hrest : Closes rest) (positive : Bool) :
    number positive (Nat.toDigits 10 n ++ rest) = afterWhole positive n 0 rest := by
  have hvalue : Nat.ofDigitChars 10 (Nat.toDigits 10 n) 0 = n :=
    Nat.ofDigitChars_toDigits (by decide) (by decide)
  have hall : ∀ c ∈ Nat.toDigits 10 n, c.isDigit = true := fun c hc ↦
    Nat.isDigit_of_mem_toDigits (by decide) (by decide) hc
  rcases Nat.eq_zero_or_pos n with rfl | hpos
  · have hzero : Nat.toDigits 10 0 = ['0'] := rfl
    have hhead : rest.head?.any Char.isDigit = false := by
      cases rest with
      | nil => rfl
      | cons c more => exact not_isDigit_of_closes hrest
    rw [hzero, List.singleton_append, number, hhead]
    rfl
  · obtain ⟨c, more, hdigits, hc⟩ := toDigits_eq_cons hpos
    rw [hdigits] at hvalue hall
    have hvalue' : Nat.ofDigitChars 10 more (digitOf c) = n := by
      rw [Nat.ofDigitChars_cons, Nat.mul_zero, Nat.zero_add] at hvalue
      exact hvalue
    have hmore : ∀ found ∈ more, found.isDigit = true := fun found hmem ↦
      hall found (List.mem_cons_of_mem _ hmem)
    have hread : readDigits (digitOf c) 0 (more ++ rest) = (n, 0 + more.length, 0, rest) := by
      rw [readDigits_append hmore hrest 0 (by rw [hvalue']; exact hn), hvalue']
    rw [hdigits, List.cons_append, number]
    · rw [hall c List.mem_cons_self, if_pos rfl, hread]
    · exact hc

/-- A number without point and exponent is an integer if it fits. -/
theorem afterWhole_of_closes {rest : List Char} (hrest : Closes rest) (positive : Bool)
    (significand : Nat) : afterWhole positive significand 0 rest =
      if positive then .ok (.int significand, rest)
      else if significand == 0 || significand > Nat.pow 2 63 then
        .ok (.float (-(UInt64.ofNat significand).toFloat), rest)
      else .ok (.int (-(significand : Int)), rest) := by
  cases rest with
  | nil => rfl
  | cons c more =>
    have hmem := hrest c rfl
    simp only [List.mem_cons, List.not_mem_nil, or_false] at hmem
    rcases hmem with rfl | rfl | rfl <;> rfl

theorem ne_of_isDigit {c other : Char} (hc : c.isDigit = true) (hother : other.isDigit = false) :
    c ≠ other := by
  rintro rfl
  rw [hc] at hother
  cases hother

theorem isSpace_of_isDigit {c : Char} (hc : c.isDigit = true) : isSpace c = false := by
  simp only [isSpace, Bool.or_eq_false_iff, beq_eq_false_iff_ne]
  exact ⟨⟨⟨ne_of_isDigit hc rfl, ne_of_isDigit hc rfl⟩, ne_of_isDigit hc rfl⟩,
    ne_of_isDigit hc rfl⟩

/-- Nothing is skipped before a character that is no blank. -/
theorem skipSpace_cons {c : Char} (h : isSpace c = false) (rest : List Char) :
    skipSpace (c :: rest) = c :: rest := by
  apply List.dropWhile_cons_of_neg
  rw [h]
  exact Bool.false_ne_true

theorem value_of_isDigit {c : Char} (hc : c.isDigit = true) (depth : Nat) (rest : List Char) :
    value depth (c :: rest) = number true (c :: rest) := by
  rw [value, skipSpace_cons (isSpace_of_isDigit hc)]
  split
  case h_9 first more _ _ _ _ _ _ _ h =>
    obtain ⟨rfl, rfl⟩ := List.cons.inj h
    rw [hc, if_pos rfl]
  case h_1 h => cases h
  all_goals
    next h =>
      obtain ⟨rfl, -⟩ := List.cons.inj h
      cases hc

end Playbook.Json
