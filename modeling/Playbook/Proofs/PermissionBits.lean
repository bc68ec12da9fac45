import Playbook.Proofs.Numeral
import Playbook.Proofs.Outline.Reading
import Playbook.Proofs.Overlay
import Playbook.Task.Config

/-!
# Permission bits

The mode of a file that is written from a template is an integer of 32 bits or a text that spells
one in octal. By the rule such a text has at most one mark `0o` before its digits. What is read has
any number of marks, and maybe a plus sign behind them, so the rule holds exactly of the values
that are no text with a second mark or a sign.
-/

namespace Playbook

/-! ## Octal numerals -/

namespace Octal

def IsDigit (c : Char) : Prop :=
  '0' ≤ c ∧ c ≤ '7'

instance (c : Char) : Decidable (IsDigit c) :=
  inferInstanceAs (Decidable (_ ∧ _))

/-- One or more octal digits with a value of 32 bits. -/
structure Numeral (digits : List Char) (bits : Nat) : Prop where
  nonempty : digits ≠ []
  octal : ∀ c ∈ digits, IsDigit c
  value : Nat.ofDigitChars 8 digits 0 = bits
  fits : bits < 2 ^ 32

theorem isDigit_iff {c : Char} : IsDigit c ↔ 48 ≤ c.toNat ∧ c.toNat ≤ 55 :=
  and_congr UInt32.le_iff_toNat_le UInt32.le_iff_toNat_le

theorem isDigit_of_octal {c : Char} (h : IsDigit c) : c.isDigit = true := by
  have hrange := isDigit_iff.mp h
  exact Char.isDigit_iff_toNat.mpr ⟨hrange.1, hrange.2.trans (by decide)⟩

theorem digitValue?_of_octal {c : Char} (h : IsDigit c) :
    Decimal.Integer.digitValue? 8 c = some (c.toNat - '0'.toNat) := by
  have hrange := isDigit_iff.mp h
  have hsmall : c.toNat - 48 < 8 := by omega
  rw [Decimal.Integer.digitValue?, if_pos (isDigit_of_octal h)]
  exact Option.filter_some_pos (by simpa using hsmall)

theorem octal_of_digitValue? {c : Char} {d : Nat}
    (h : Decimal.Integer.digitValue? 8 c = some d) : IsDigit c := by
  obtain ⟨hvalue, hsmall⟩ := Option.filter_eq_some_iff.mp h
  have hlt : d < 8 := of_decide_eq_true hsmall
  split at hvalue
  · next hdigit =>
    have hrange := Char.isDigit_iff_toNat.mp hdigit
    have hd : c.toNat - 48 = d := Option.some.inj hvalue
    exact isDigit_iff.mpr ⟨hrange.1, by omega⟩
  · -- A letter stands for ten at least.
    split at hvalue
    · have hd := Option.some.inj hvalue
      omega
    · split at hvalue
      · have hd := Option.some.inj hvalue
        omega
      · cases hvalue

/-- The digits of a number in octal are octal. -/
theorem octal_of_mem_toDigits (n : Nat) : ∀ c ∈ Nat.toDigits 8 n, IsDigit c := by
  have hdigit (d : Nat) (hd : d < 8) : IsDigit d.digitChar := by
    interval_cases d <;> decide
  induction n using Nat.strong_induction_on with
  | _ n ih =>
    by_cases hsmall : n < 8
    · rw [Nat.toDigits_of_lt_base hsmall]
      exact List.forall_mem_singleton.mpr (hdigit n hsmall)
    · rw [Nat.toDigits_of_base_le (by decide) (by omega)]
      exact List.forall_mem_append.mpr
        ⟨ih (n / 8) (by omega), List.forall_mem_singleton.mpr (hdigit _ (by omega))⟩

open Decimal.Integer (Fault magnitude)

/-- What is read as an octal number are octal digits, and what they make fits. -/
theorem magnitude_eq_ok {limit value n : Nat} {tooFar : Fault} {digits : List Char}
    (hvalue : value ≤ limit) :
    magnitude 8 limit tooFar value digits = .ok n ↔
      (∀ c ∈ digits, IsDigit c) ∧ Nat.ofDigitChars 8 digits value = n ∧ n ≤ limit := by
  constructor
  · intro h
    have hall : ∀ c ∈ digits, IsDigit c := by
      induction digits generalizing value with
      | nil => exact nofun
      | cons c rest ih =>
        rw [magnitude] at h
        split at h
        · cases h
        · next d hd =>
          split at h
          · next hfits =>
            exact List.forall_mem_cons.mpr ⟨octal_of_digitValue? hd, ih hfits h⟩
          · cases h
    rw [Decimal.Integer.magnitude_digits (by decide) tooFar
      (fun c hc ↦ digitValue?_of_octal (hall c hc)) hvalue] at h
    split at h
    · next hfits =>
      obtain rfl := Except.ok.inj h
      exact ⟨hall, rfl, hfits⟩
    · cases h
  · rintro ⟨hall, rfl, hfits⟩
    rw [Decimal.Integer.magnitude_digits (by decide) tooFar
      (fun c hc ↦ digitValue?_of_octal (hall c hc)) hvalue, if_pos hfits]

end Octal

/-! ## Texts of a mode -/

namespace TemplateConfig

open Octal (IsDigit Numeral)
open Outline (map_eq_ok)

def sign : Bool → List Char
  | true => ['+']
  | false => []

/-- Some marks, maybe a sign, and digits. -/
def marked (marks : Nat) (signed : Bool) (digits : List Char) : List Char :=
  (List.replicate marks ['0', 'o']).flatten ++ (sign signed ++ digits)

/-- What a mode is by the rule: an integer of 32 bits, or the spelling of one in octal between
blanks, with a mark or without. -/
inductive IsMode : Json → Nat → Prop where
  | int {bits : Nat} (fits : bits < 2 ^ 32) : IsMode (.int bits) bits
  | text {text : String} {marks bits : Nat} {digits : List Char} (single : marks ≤ 1)
      (spelled : Text.trimList text.toList = marked marks false digits)
      (numeral : Numeral digits bits) : IsMode (.str text) bits

/-- The other texts that are read as a mode: they have a second mark or a sign. -/
inductive IsLooseMode : Json → Nat → Prop where
  | text {text : String} {marks bits : Nat} {signed : Bool} {digits : List Char}
      (loose : 1 < marks ∨ signed = true)
      (spelled : Text.trimList text.toList = marked marks signed digits)
      (numeral : Numeral digits bits) : IsLooseMode (.str text) bits

/-! ## Marks -/

/-- No mark stands at the start. -/
def Unmarked (text : List Char) : Prop :=
  ∀ rest, text ≠ '0' :: 'o' :: rest

theorem dropMarks_unmarked {text : List Char} (h : Unmarked text) : dropMarks text = text := by
  unfold dropMarks
  split
  · next rest => exact absurd rfl (h rest)
  · rfl

theorem dropMarks_replicate (marks : Nat) {text : List Char} (h : Unmarked text) :
    dropMarks ((List.replicate marks ['0', 'o']).flatten ++ text) = text := by
  induction marks with
  | zero => exact dropMarks_unmarked h
  | succ marks ih => exact ih

/-- All marks at the start of a text are dropped. -/
theorem exists_dropMarks (text : List Char) : ∃ marks, Unmarked (dropMarks text) ∧
    text = (List.replicate marks ['0', 'o']).flatten ++ dropMarks text := by
  fun_induction dropMarks text with
  | case1 rest ih =>
    obtain ⟨marks, hunmarked, htext⟩ := ih
    refine ⟨marks + 1, hunmarked, ?_⟩
    rw [List.replicate_succ, List.flatten_cons, List.append_assoc, ← htext]
    rfl
  | case2 text hother => exact ⟨0, hother, rfl⟩

theorem replicate_marks_inj {marks marks' : Nat} {text text' : List Char} (h : Unmarked text)
    (h' : Unmarked text')
    (heq : (List.replicate marks ['0', 'o']).flatten ++ text =
      (List.replicate marks' ['0', 'o']).flatten ++ text') : marks = marks' ∧ text = text' := by
  have htext : text = text' := by
    rw [← dropMarks_replicate marks h, heq, dropMarks_replicate marks' h']
  subst htext
  have hlength := congrArg List.length (List.append_cancel_right heq)
  simp only [List.length_flatten, List.map_replicate, List.length_cons, List.length_nil,
    List.sum_replicate_nat] at hlength
  exact ⟨by omega, rfl⟩

theorem unmarked_cons {c : Char} (hc : c ≠ '0') (rest : List Char) : Unmarked (c :: rest) :=
  fun _ h ↦ hc (List.cons.inj h).1

theorem unmarked_of_octal {digits : List Char} (h : ∀ c ∈ digits, IsDigit c) :
    Unmarked digits := by
  rintro rest rfl
  have hmark : IsDigit 'o' := h 'o' (by simp)
  exact absurd hmark (by decide)

theorem unmarked_signed {signed : Bool} {digits : List Char} (h : ∀ c ∈ digits, IsDigit c) :
    Unmarked (sign signed ++ digits) := by
  cases signed with
  | true => exact unmarked_cons (by decide) digits
  | false => exact unmarked_of_octal h

/-- How many marks a mode has, and whether it has a sign, can be told from it. -/
theorem marked_inj {marks marks' : Nat} {signed signed' : Bool} {digits digits' : List Char}
    (hdigits : ∀ c ∈ digits, IsDigit c) (hdigits' : ∀ c ∈ digits', IsDigit c)
    (h : marked marks signed digits = marked marks' signed' digits') :
    marks = marks' ∧ signed = signed' ∧ digits = digits' := by
  obtain ⟨hmarks, htext⟩ :=
    replicate_marks_inj (unmarked_signed hdigits) (unmarked_signed hdigits') h
  have hplus : ∀ rest : List Char, (∀ c ∈ '+' :: rest, IsDigit c) → False := fun rest hall ↦
    absurd (hall '+' List.mem_cons_self) (by decide)
  refine ⟨hmarks, ?_⟩
  cases signed <;> cases signed'
  · exact ⟨rfl, htext⟩
  · obtain rfl : digits = '+' :: digits' := htext
    exact (hplus digits' hdigits).elim
  · obtain rfl : '+' :: digits = digits' := htext
    exact (hplus digits hdigits').elim
  · exact ⟨rfl, List.append_cancel_left htext⟩

/-! ## Reading a mode -/

/-- An integer of 32 bits is read from digits, with a sign before them or without. -/
theorem nat32_eq_ok {text : List Char} {n : Int} :
    Decimal.Integer.nat32 8 text = .ok n ↔ ∃ signed digits bits,
      text = sign signed ++ digits ∧ Numeral digits bits ∧ n = (bits : Nat) := by
  have hread (digits : List Char) (hsome : digits ≠ []) :
      (Decimal.Integer.magnitude 8 (Nat.pow 2 32 - 1) .tooLarge 0 digits).map Int.ofNat = .ok n ↔
        ∃ bits : Nat, Numeral digits bits ∧ n = bits := by
    have hlimit : Nat.pow 2 32 - 1 = 2 ^ 32 - 1 := rfl
    rw [map_eq_ok]
    simp only [Octal.magnitude_eq_ok (Nat.zero_le _), hlimit]
    constructor
    · rintro ⟨bits, ⟨hall, hvalue, hfits⟩, rfl⟩
      exact ⟨bits, ⟨hsome, hall, hvalue, by omega⟩, rfl⟩
    · rintro ⟨bits, ⟨-, hall, hvalue, hfits⟩, rfl⟩
      exact ⟨bits, ⟨hall, hvalue, by omega⟩, rfl⟩
  constructor
  · intro h
    unfold Decimal.Integer.nat32 Decimal.Integer.parse at h
    split at h
    · cases h
    · cases h
    · cases h
    · next digits hsome =>
      obtain ⟨bits, hnumeral, rfl⟩ := (hread digits fun hnil ↦ hsome (by rw [hnil])).mp h
      exact ⟨true, digits, bits, rfl, hnumeral, rfl⟩
    · cases h
    · next hsome _ _ _ _ =>
      obtain ⟨bits, hnumeral, rfl⟩ := (hread text hsome).mp h
      exact ⟨false, text, bits, rfl, hnumeral, rfl⟩
  · rintro ⟨signed, digits, bits, rfl, hnumeral, rfl⟩
    have hmagnitude := (hread digits hnumeral.nonempty).mpr ⟨bits, hnumeral, rfl⟩
    obtain ⟨c, rest, rfl⟩ := List.exists_cons_of_ne_nil hnumeral.nonempty
    have hc : c.isDigit = true :=
      Octal.isDigit_of_octal (hnumeral.octal c List.mem_cons_self)
    cases signed with
    | true => exact hmagnitude
    | false =>
      rw [← hmagnitude]
      exact Decimal.Integer.parse_of_isDigit hc 8 0 _ rest

theorem decodeMode_eq_ok {value : Json} {bits : Nat} :
    decodeMode value = .ok bits ↔ IsMode value bits ∨ IsLooseMode value bits := by
  constructor
  · intro h
    cases value
    case int n =>
      have hlimit : (Nat.pow 2 32 : Int) = 2 ^ 32 := rfl
      rw [decodeMode] at h
      split at h
      · next hrange =>
        obtain rfl := Except.ok.inj h
        have hn : n = (n.toNat : Nat) := by omega
        rw [hn]
        exact .inl (.int (by omega))
      · cases h
    case str text =>
      rw [decodeMode] at h
      split at h
      · next n hn =>
        obtain ⟨signed, digits, found, htext, hnumeral, rfl⟩ := nat32_eq_ok.mp hn
        obtain rfl : found = bits := Except.ok.inj h
        obtain ⟨marks, -, hmarks⟩ := exists_dropMarks (Text.trimList text.toList)
        rw [htext] at hmarks
        by_cases hloose : 1 < marks ∨ signed = true
        · exact .inr (.text hloose hmarks hnumeral)
        · obtain ⟨hsingle, hunsigned⟩ := not_or.mp hloose
          rw [Bool.not_eq_true] at hunsigned
          subst hunsigned
          exact .inl (.text (Nat.not_lt.mp hsingle) hmarks hnumeral)
      · cases h
    all_goals cases h
  · have htext {text : String} {marks : Nat} {signed : Bool} {digits : List Char}
        (hspelled : Text.trimList text.toList = marked marks signed digits)
        (hnumeral : Numeral digits bits) : decodeMode (.str text) = .ok bits := by
      have hdrop : dropMarks (Text.trimList text.toList) = sign signed ++ digits := by
        rw [hspelled]
        exact dropMarks_replicate marks (unmarked_signed hnumeral.octal)
      rw [decodeMode, hdrop, nat32_eq_ok.mpr ⟨signed, digits, bits, rfl, hnumeral, rfl⟩]
      rfl
    rintro (hmode | hmode)
    · cases hmode with
      | int fits =>
        have hrange : 0 ≤ (bits : Int) ∧ (bits : Int) < Nat.pow 2 32 :=
          ⟨Int.natCast_nonneg bits, Int.ofNat_lt.mpr fits⟩
        rw [decodeMode, if_pos hrange, Int.toNat_natCast]
      | text _ spelled numeral => exact htext spelled numeral
    · cases hmode with
      | text _ spelled numeral => exact htext spelled numeral

/-- No value is a mode by the rule and beyond it. -/
theorem IsMode.not_loose {value : Json} {bits bits' : Nat} (h : IsMode value bits) :
    ¬ IsLooseMode value bits' := by
  intro hloose
  cases hloose with
  | text loose spelled' numeral' =>
    cases h with
    | text single spelled numeral =>
      obtain ⟨rfl, rfl, -⟩ :=
        marked_inj numeral.octal numeral'.octal (spelled.symm.trans spelled')
      rcases loose with hmarks | hsigned
      · omega
      · cases hsigned

/-- The spelling of a number in octal with zeros before it and blanks around it is a mode. -/
theorem isMode_spelled {bits : Nat} (hbits : bits < 2 ^ 32) {before after : List Char}
    (hbefore : ∀ c ∈ before, Text.isBlank c = true) (hafter : ∀ c ∈ after, Text.isBlank c = true)
    {marks : Nat} (hmarks : marks ≤ 1) (zeros : Nat) :
    IsMode (.str (String.ofList (before ++
      marked marks false (List.replicate zeros '0' ++ Nat.toDigits 8 bits) ++ after))) bits := by
  have hoctal : ∀ c ∈ List.replicate zeros '0' ++ Nat.toDigits 8 bits, IsDigit c := by
    refine List.forall_mem_append.mpr ⟨fun c hc ↦ ?_, Octal.octal_of_mem_toDigits bits⟩
    rw [List.eq_of_mem_replicate hc]
    decide
  have hvalue : Nat.ofDigitChars 8 (List.replicate zeros '0' ++ Nat.toDigits 8 bits) 0 = bits := by
    rw [Nat.ofDigitChars_append, Nat.ofDigitChars_replicate_zero, Nat.mul_zero,
      Nat.ofDigitChars_toDigits (by decide) (by decide)]
  have hsome : List.replicate zeros '0' ++ Nat.toDigits 8 bits ≠ [] := fun h ↦
    Nat.toDigits_ne_nil (List.append_eq_nil_iff.mp h).2
  have hnumeral : Numeral _ bits := ⟨hsome, hoctal, hvalue, hbits⟩
  refine .text hmarks ?_ hnumeral
  rw [String.toList_ofList]
  refine Text.trimList_surrounded hbefore (List.forall_mem_append.mpr ⟨fun c hc ↦ ?_,
    fun c hc ↦ ?_⟩) hafter
  · obtain ⟨mark, hmark, hmem⟩ := List.mem_flatten.mp hc
    rw [List.eq_of_mem_replicate hmark] at hmem
    have hsolid : ∀ c ∈ ['0', 'o'], Text.isBlank c = false := by simp [Text.isBlank]
    exact hsolid c hmem
  · exact Text.isBlank_of_isDigit (Octal.isDigit_of_octal (hoctal c hc))

/-! ## Decoding a configuration -/

/-- What decoding the fields of a configuration makes of one part: a field of that name is decoded,
unless the part is there already. -/
def Takes {α : Type} (decodeField : Json → Except DecodeError α) (name : String) (config : Config)
    (earlier after : Option α) : Prop :=
  match Entries.lookup name config with
  | none => after = earlier
  | some value => earlier = none ∧ ∃ part, decodeField value = .ok part ∧ after = some part

theorem once_eq_ok {α : Type} {name : String} {earlier after : Option α}
    {part : Except DecodeError α} :
    Json.once name earlier part = .ok after ↔
      earlier = none ∧ ∃ value, part = .ok value ∧ after = some value := by
  cases earlier with
  | some value => simp [Json.once]
  | none =>
    rw [Json.once, map_eq_ok]
    simp only [true_and, eq_comm]

theorem takes_cons_ne {α : Type} {decodeField : Json → Except DecodeError α} {name : String}
    {field : String × Json} {rest : Config} {earlier after : Option α} (h : name ≠ field.1) :
    Takes decodeField name (field :: rest) earlier after ↔
      Takes decodeField name rest earlier after := by
  rw [Takes, Takes, Entries.lookup, if_neg h]

/-- A field is taken where it stands if there is no other of its name. -/
theorem takes_cons_self {α : Type} {decodeField : Json → Except DecodeError α} {name : String}
    {value : Json} {rest : Config} {earlier after : Option α}
    (h : Entries.lookup name rest = none) :
    Takes decodeField name ((name, value) :: rest) earlier after ↔
      ∃ between, Json.once name earlier (decodeField value) = .ok between ∧
        Takes decodeField name rest between after := by
  simp [Takes, Entries.lookup, h, once_eq_ok]

theorem foldlM_cons_eq_ok {field : String × Json} {rest : Config} {parts after : Parts} :
    (field :: rest).foldlM step parts = .ok after ↔
      ∃ between, step parts field = .ok between ∧ rest.foldlM step between = .ok after := by
  rw [List.foldlM_cons]
  cases step parts field with
  | error fault => simp [bind, Except.bind]
  | ok between => simp [bind, Except.bind]

/-- The fields of a configuration are decoded independently of each other. -/
theorem foldlM_step {config : Config} (hconfig : Entries.Sorted config) {parts after : Parts} :
    config.foldlM step parts = .ok after ↔
      Takes Json.toPath "src" config parts.source after.source ∧
      Takes Json.toPath "dest" config parts.target after.target ∧
      Takes decodeMode "mode" config parts.mode after.mode := by
  induction config generalizing parts with
  | nil =>
    have hempty : List.foldlM step parts ([] : Config) = .ok parts := rfl
    rw [hempty, Except.ok.injEq]
    obtain ⟨source, target, mode⟩ := parts
    obtain ⟨source', target', mode'⟩ := after
    simp [Takes, Entries.lookup, eq_comm]
  | cons field rest ih =>
    obtain ⟨hfirst, hrest⟩ := List.pairwise_cons.mp hconfig
    obtain ⟨name, value⟩ := field
    have hlast : Entries.lookup name rest = none := Entries.lookup_eq_none fun later hmem heq ↦
      String.lt_irrefl name (lt_of_lt_of_eq (hfirst later hmem) heq.symm)
    rw [foldlM_cons_eq_ok]
    simp only [ih hrest]
    by_cases hsource : name = "src"
    · subst hsource
      rw [takes_cons_self hlast, takes_cons_ne (show "dest" ≠ "src" by decide),
        takes_cons_ne (show "mode" ≠ "src" by decide)]
      simp only [step, if_true, map_eq_ok, exists_exists_and_eq_and]
      constructor
      · rintro ⟨part, hpart, hrest, hothers⟩
        exact ⟨⟨part, hpart, hrest⟩, hothers⟩
      · rintro ⟨⟨part, hpart, hrest⟩, hothers⟩
        exact ⟨part, hpart, hrest, hothers⟩
    by_cases htarget : name = "dest"
    · subst htarget
      rw [takes_cons_self hlast, takes_cons_ne (show "src" ≠ "dest" by decide),
        takes_cons_ne (show "mode" ≠ "dest" by decide)]
      simp only [step, if_neg hsource, if_true, map_eq_ok, exists_exists_and_eq_and]
      constructor
      · rintro ⟨part, hpart, hsource, hrest, hmode⟩
        exact ⟨hsource, ⟨part, hpart, hrest⟩, hmode⟩
      · rintro ⟨hsource, ⟨part, hpart, hrest⟩, hmode⟩
        exact ⟨part, hpart, hsource, hrest, hmode⟩
    by_cases hmode : name = "mode"
    · subst hmode
      rw [takes_cons_self hlast, takes_cons_ne (show "src" ≠ "mode" by decide),
        takes_cons_ne (show "dest" ≠ "mode" by decide)]
      simp only [step, if_neg hsource, if_neg htarget, if_true, map_eq_ok,
        exists_exists_and_eq_and]
      constructor
      · rintro ⟨part, hpart, hsource, htarget, hrest⟩
        exact ⟨hsource, htarget, part, hpart, hrest⟩
      · rintro ⟨hsource, htarget, part, hpart, hrest⟩
        exact ⟨part, hpart, hsource, htarget, hrest⟩
    · rw [takes_cons_ne (Ne.symm hsource), takes_cons_ne (Ne.symm htarget),
        takes_cons_ne (Ne.symm hmode)]
      simp [step, hsource, htarget, hmode]

section

variable {config : Config} {source target : String} {mode : Json}

/-- A configuration with a source, a target and a mode is decoded if the mode is. -/
theorem decode_eq_ok (hconfig : Entries.Sorted config)
    (hsource : Entries.lookup "src" config = some (.str source))
    (htarget : Entries.lookup "dest" config = some (.str target))
    (hmode : Entries.lookup "mode" config = some mode) {result : TemplateConfig} :
    decode config = .ok result ↔
      result.source = source ∧ result.target = target ∧ decodeMode mode = .ok result.mode := by
  have hparts (parts : Parts) : config.foldlM step ⟨none, none, none⟩ = .ok parts ↔
      parts.source = some source ∧ parts.target = some target ∧
        ∃ bits, decodeMode mode = .ok bits ∧ parts.mode = some bits := by
    rw [foldlM_step hconfig]
    simp [Takes, hsource, htarget, hmode, Json.toPath, Json.toText]
  constructor
  · intro h
    cases hfold : config.foldlM step ⟨none, none, none⟩ with
    | error fault =>
      rw [decode, hfold] at h
      cases h
    | ok parts =>
      obtain ⟨found, sought, mode'⟩ := parts
      obtain ⟨rfl, rfl, bits, hbits, rfl⟩ := (hparts _).mp hfold
      rw [decode, hfold] at h
      obtain rfl := Except.ok.inj h
      exact ⟨rfl, rfl, hbits⟩
  · obtain ⟨found, sought, bits⟩ := result
    rintro ⟨rfl, rfl, hbits⟩
    rw [decode, (hparts ⟨some found, some sought, some bits⟩).mpr ⟨rfl, rfl, bits, hbits, rfl⟩]
    rfl

/-- Beside a source and a target, a mode by the rule is decoded, and nothing else but texts with a
second mark or a sign; so the rule is exact for a value that is no such text. Every number of 32
bits is a mode in its octal spelling. -/
theorem decode_mode (hconfig : Entries.Sorted config)
    (hsource : Entries.lookup "src" config = some (.str source))
    (htarget : Entries.lookup "dest" config = some (.str target))
    (hmode : Entries.lookup "mode" config = some mode) :
    (∀ result, decode config = .ok result ↔ result.source = source ∧ result.target = target ∧
      (IsMode mode result.mode ∨ IsLooseMode mode result.mode)) ∧
    ((∀ result, decode config = .ok result ↔ result.source = source ∧ result.target = target ∧
        IsMode mode result.mode) ↔ ∀ bits, ¬ IsLooseMode mode bits) ∧
    ∀ bits < 2 ^ 32, ∀ before after : List Char, (∀ c ∈ before, Text.isBlank c = true) →
      (∀ c ∈ after, Text.isBlank c = true) → ∀ marks ≤ 1, ∀ zeros,
      mode = .str (String.ofList (before ++
        marked marks false (List.replicate zeros '0' ++ Nat.toDigits 8 bits) ++ after)) →
      decode config = .ok ⟨source, target, bits⟩ := by
  have hdecode (result : TemplateConfig) : decode config = .ok result ↔
      result.source = source ∧ result.target = target ∧
        (IsMode mode result.mode ∨ IsLooseMode mode result.mode) := by
    rw [decode_eq_ok hconfig hsource htarget hmode, decodeMode_eq_ok]
  refine ⟨hdecode, ⟨fun hrule bits hloose ↦ ?_, fun hnone result ↦ ?_⟩, ?_⟩
  · have hresult := (hdecode ⟨source, target, bits⟩).mpr ⟨rfl, rfl, .inr hloose⟩
    obtain ⟨-, -, hstrict⟩ := (hrule _).mp hresult
    exact hstrict.not_loose hloose
  · rw [hdecode, or_iff_left (hnone _)]
  · rintro bits hbits before after hbefore hafter marks hmarks zeros rfl
    exact (hdecode _).mpr ⟨rfl, rfl, .inl (isMode_spelled hbits hbefore hafter hmarks zeros)⟩

end

/-- A configuration with the given mode. -/
def configWith (mode : Json) : Config :=
  [("dest", .str "out"), ("mode", mode), ("src", .str "in")]

theorem sorted_configWith (mode : Json) : Entries.Sorted (configWith mode) := by
  have hkeys : ["dest", "mode", "src"].Pairwise (· < ·) := by decide
  exact (List.pairwise_map (f := Prod.fst) (l := configWith mode)).mp hkeys

/-- A mode with a mark, superfluous zeros and blanks. -/
theorem decode_mode_padded :
    Entries.Sorted (configWith (.str " 0o00755\n")) ∧
      Entries.lookup "src" (configWith (.str " 0o00755\n")) = some (.str "in") ∧
      Entries.lookup "dest" (configWith (.str " 0o00755\n")) = some (.str "out") ∧
      Entries.lookup "mode" (configWith (.str " 0o00755\n")) = some (.str " 0o00755\n") ∧
      decode (configWith (.str " 0o00755\n")) = .ok ⟨"in", "out", 0o755⟩ := by
  have hspace : ∀ c ∈ [' '], Text.isBlank c = true := List.forall_mem_singleton.mpr rfl
  have hbreak : ∀ c ∈ ['\n'], Text.isBlank c = true := List.forall_mem_singleton.mpr rfl
  obtain ⟨-, -, hspelled⟩ := decode_mode (sorted_configWith (.str " 0o00755\n")) rfl rfl rfl
  refine ⟨sorted_configWith _, rfl, rfl, rfl, ?_⟩
  exact hspelled 0o755 (by decide) [' '] ['\n'] hspace hbreak 1 (Nat.le_refl 1) 2 rfl

/-- A second mark is read over, and so is a sign. -/
theorem decode_loose_modes :
    decode (configWith (.str "0o0o17")) = .ok ⟨"in", "out", 0o17⟩ ∧
      (∀ bits, ¬ IsMode (.str "0o0o17") bits) ∧
      decode (configWith (.str "+17")) = .ok ⟨"in", "out", 0o17⟩ ∧
      ∀ bits, ¬ IsMode (.str "+17") bits := by
  have hoctal : ∀ c ∈ ['1', '7'], IsDigit c :=
    List.forall_mem_cons.mpr ⟨by decide, List.forall_mem_singleton.mpr (by decide)⟩
  have hnumeral : Numeral ['1', '7'] 0o17 := ⟨by decide, hoctal, rfl, by decide⟩
  have hmarks : IsLooseMode (.str "0o0o17") 0o17 :=
    @IsLooseMode.text _ 2 _ false _ (.inl (by decide)) rfl hnumeral
  have hsign : IsLooseMode (.str "+17") 0o17 :=
    @IsLooseMode.text _ 0 _ true _ (.inr rfl) rfl hnumeral
  have hread {mode : Json} (hloose : IsLooseMode mode 0o17) :
      decode (configWith mode) = .ok ⟨"in", "out", 0o17⟩ :=
    (decode_eq_ok (sorted_configWith mode) rfl rfl rfl).mpr
      ⟨rfl, rfl, decodeMode_eq_ok.mpr (.inr hloose)⟩
  exact ⟨hread hmarks, fun _ h ↦ h.not_loose hmarks, hread hsign, fun _ h ↦ h.not_loose hsign⟩

end TemplateConfig

end Playbook
