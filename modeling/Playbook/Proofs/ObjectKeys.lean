import Mathlib.Tactic.SplitIfs
import Playbook.Json.Reading
import Playbook.Proofs.Outline.Reading
import Playbook.Proofs.Spelling.Value

/-!
# Keys of objects that are read

An object is read field by field, each of which is put where its key belongs, so that an object that
is read has its keys in order and none twice. Nothing else that is read is an object.
-/

namespace Playbook.Json

open Outline (map_eq_ok)

/-! ## What is no object -/

/-- What is read, if anything, is no object. -/
def ReadsNoObject (result : Result Json) : Prop :=
  ∀ fields rest, result ≠ .ok (.obj fields, rest)

theorem finishFloat_noObject (positive : Bool) (significand : Nat) (exponent : Int)
    (rest : List Char) : ReadsNoObject (finishFloat positive significand exponent rest) := by
  intro fields after h
  unfold finishFloat at h
  split at h <;> cases h

theorem exponentPart_noObject (positive : Bool) (significand : Nat) (start : Int)
    (text : List Char) : ReadsNoObject (exponentPart positive significand start text) := by
  intro fields after h
  simp only [exponentPart] at h
  split at h
  · cases h
  · next c rest _ =>
    -- The conditions are taken one by one: splitting them all would split the sign as well.
    cases hdigit : c.isDigit with
    | false =>
      rw [hdigit] at h
      cases h
    | true =>
      rw [hdigit] at h
      cases hexponent : readExponent (digitOf c) rest with
      | mk read rest =>
        rw [hexponent] at h
        cases read with
        | some e => exact finishFloat_noObject _ _ _ _ _ _ h
        | none =>
          dsimp only at h
          generalize (significand != 0 && _) = tooLarge at h
          cases tooLarge <;> cases h

theorem fractionPart_noObject (positive : Bool) (significand : Nat) (start : Int)
    (text : List Char) : ReadsNoObject (fractionPart positive significand start text) := by
  intro fields after h
  unfold fractionPart at h
  cases hdigits : readDigits significand 0 text with
  | mk significand parts =>
  obtain ⟨used, skipped, rest⟩ := parts
  rw [hdigits] at h
  dsimp only at h
  split at h
  · cases h
  · split at h
    · exact exponentPart_noObject _ _ _ _ _ _ h
    · exact exponentPart_noObject _ _ _ _ _ _ h
    · exact finishFloat_noObject _ _ _ _ _ _ h

theorem afterWhole_noObject (positive : Bool) (significand skipped : Nat)
    (text : List Char) : ReadsNoObject (afterWhole positive significand skipped text) := by
  intro fields after h
  unfold afterWhole at h
  split at h
  · exact fractionPart_noObject _ _ _ _ _ _ h
  · exact exponentPart_noObject _ _ _ _ _ _ h
  · exact exponentPart_noObject _ _ _ _ _ _ h
  · split_ifs at h
    · exact finishFloat_noObject _ _ _ _ _ _ h
    all_goals cases h

theorem number_noObject (positive : Bool) (text : List Char) :
    ReadsNoObject (number positive text) := by
  intro fields after h
  unfold number at h
  split at h
  · cases h
  · split_ifs at h
    · cases h
    · exact afterWhole_noObject _ _ _ _ _ _ h
  · split_ifs at h
    · exact afterWhole_noObject _ _ _ _ _ _ h
    · cases h

theorem word_noObject {value : Json} (hvalue : ∀ fields, value ≠ .obj fields)
    (letters text : List Char) : ReadsNoObject (word value letters text) := by
  intro fields after h
  fun_induction word value letters text with
  | case1 text => exact hvalue fields (congrArg Prod.fst (Except.ok.inj h))
  | case2 => cases h
  | case3 expected more c rest _ ih => exact ih h
  | case4 => cases h

/-! ## Fields -/

/-- Either an object ends or another field of it is read. -/
theorem ends_or_reads {item : List Char → Result Json} {first : Bool}
    {read found : List (String × Json)} {fuel : Nat} {text rest : List Char}
    (h : fields item first read (fuel + 1) text = .ok (found, rest)) :
    found = read ∨ ∃ after, readField item read fuel after = .ok (found, rest) := by
  rw [fields] at h
  dsimp only at h
  split at h
  · cases h
  · exact .inl (Prod.mk.inj (Except.ok.inj h)).1.symm
  · split_ifs at h
    · exact .inr ⟨_, h⟩
    · cases h
    · split at h
      · cases h
      · exact .inr ⟨_, h⟩
      · cases h
      · cases h
    · cases h

theorem fields_sorted {item : List Char → Result Json} {first : Bool}
    {read found : List (String × Json)} {fuel : Nat} {text rest : List Char}
    (hread : Entries.Sorted read) (h : fields item first read fuel text = .ok (found, rest)) :
    Entries.Sorted found := by
  induction fuel generalizing first read text with
  | zero => cases h
  | succ fuel ih =>
    rcases ends_or_reads h with rfl | ⟨after, hfield⟩
    · exact hread
    · unfold readField at hfield
      split at hfield
      · cases hfield
      · split at hfield
        · cases hfield
        · split at hfield
          · exact ih (Entries.insert_sorted hread) hfield
          · cases hfield
        · cases hfield

/-! ## Values -/

theorem sorted_of_value {depth : Nat} {text rest : List Char} {found : List (String × Json)}
    (h : value depth text = .ok (.obj found, rest)) : Entries.Sorted found := by
  unfold value at h
  split at h
  · cases h
  · exact absurd h (word_noObject (fun _ h ↦ by cases h) _ _ _ _)
  · exact absurd h (word_noObject (fun _ h ↦ by cases h) _ _ _ _)
  · exact absurd h (word_noObject (fun _ h ↦ by cases h) _ _ _ _)
  · exact absurd h (number_noObject _ _ _ _)
  · obtain ⟨⟨_, _⟩, -, hpair⟩ := map_eq_ok.mp h
    cases hpair
  · split at h
    · cases h
    · obtain ⟨⟨_, _⟩, -, hpair⟩ := map_eq_ok.mp h
      cases hpair
  · split at h
    · cases h
    · obtain ⟨⟨read, after⟩, hread, hpair⟩ := map_eq_ok.mp h
      obtain ⟨hread', -⟩ := Prod.mk.inj hpair
      obtain rfl := Json.obj.inj hread'
      exact fields_sorted .nil hread
  · split_ifs at h
    · exact absurd h (number_noObject _ _ _ _)
    · cases h

/-- An object that is read has its keys in order. -/
theorem sorted_of_parse {text : String} {found : List (String × Json)}
    (h : parse text = .ok (.obj found)) : Entries.Sorted found := by
  have hparse : parse text = (finish (value maxDepth text.toList)).mapError
      (·.message text.toList) := rfl
  rw [hparse] at h
  cases hvalue : value maxDepth text.toList with
  | error failure =>
    rw [hvalue] at h
    cases h
  | ok result =>
    obtain ⟨read, rest⟩ := result
    rw [hvalue] at h
    unfold finish at h
    dsimp only at h
    cases hrest : skipSpace rest with
    | nil =>
      rw [hrest] at h
      obtain rfl : read = .obj found := Except.ok.inj h
      exact sorted_of_value hvalue
    | cons =>
      rw [hrest] at h
      cases h

/-- A value is read back from its compact text. -/
theorem parse_compact (given : Json) (hexact : given.Exact) (hheight : given.height ≤ maxDepth) :
    parse given.compact = .ok given := by
  have hvalue := value_spelled given hexact maxDepth hheight [] nofun
  rw [List.append_nil] at hvalue
  rw [parse, toList_compact, hvalue]
  rfl

end Playbook.Json
