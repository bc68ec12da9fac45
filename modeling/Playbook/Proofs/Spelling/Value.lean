import Playbook.Proofs.Overlay
import Playbook.Proofs.Spelling.Basic

/-!
# Reading what was spelled

Reading takes the compact text of a value back to that value, whatever stands behind it in a list or
an object, if the value has no floats, if its integers fit in 64 bits, and if it is not nested
deeper than the reader goes.
-/

namespace Playbook.Json

mutual

/-- No floats, integers of 64 bits with or without sign, and objects with their keys in order. -/
def Exact : Json → Prop
  | .float _ => False
  | .int n => -Int.ofNat (Nat.pow 2 63) ≤ n ∧ n < Int.ofNat (Nat.pow 2 64)
  | .arr items => ExactItems items
  | .obj fields => Entries.Sorted fields ∧ ExactFields fields
  | .null | .bool _ | .str _ => True

def ExactItems : List Json → Prop
  | [] => True
  | item :: rest => Exact item ∧ ExactItems rest

def ExactFields : List (String × Json) → Prop
  | [] => True
  | (_, value) :: rest => Exact value ∧ ExactFields rest

end

mutual

def decideExact : (given : Json) → Decidable (Exact given)
  | .null | .bool _ | .str _ => .isTrue trivial
  | .float _ => .isFalse id
  | .int _ => inferInstanceAs (Decidable (_ ∧ _))
  | .arr items => decideExactItems items
  | .obj fields =>
    have := decideExactFields fields
    inferInstanceAs (Decidable (_ ∧ _))

def decideExactItems : (items : List Json) → Decidable (ExactItems items)
  | [] => .isTrue trivial
  | item :: rest =>
    have := decideExact item
    have := decideExactItems rest
    inferInstanceAs (Decidable (_ ∧ _))

def decideExactFields : (fields : List (String × Json)) → Decidable (ExactFields fields)
  | [] => .isTrue trivial
  | (_, value) :: rest =>
    have := decideExact value
    have := decideExactFields rest
    inferInstanceAs (Decidable (_ ∧ _))

end

instance : DecidablePred Exact := decideExact

mutual

/-- How deep lists and objects are nested in a value. -/
def height : Json → Nat
  | .arr items => heightItems items + 1
  | .obj fields => heightFields fields + 1
  | _ => 0

def heightItems : List Json → Nat
  | [] => 0
  | item :: rest => max (height item) (heightItems rest)

def heightFields : List (String × Json) → Nat
  | [] => 0
  | (_, value) :: rest => max (height value) (heightFields rest)

end

/-! ## Values that are not nested -/

variable {depth : Nat} {rest : List Char}

theorem spelled_int (n : Int) : spelled (.int n) =
    (if 0 ≤ n then n.toNat.repr else "-" ++ (-n).toNat.repr).toList := by
  rw [← Int.repr_eq_if]
  rfl

theorem spelled_int_of_nonneg {n : Int} (h : 0 ≤ n) :
    spelled (.int n) = Nat.toDigits 10 n.toNat := by
  rw [spelled_int, if_pos h, Nat.toList_repr]

theorem spelled_int_of_neg {n : Int} (h : ¬ 0 ≤ n) :
    spelled (.int n) = '-' :: Nat.toDigits 10 (-n).toNat := by
  rw [spelled_int, if_neg h, String.toList_append, Nat.toList_repr]
  rfl

theorem toDigits_eq_isDigit_cons (n : Nat) :
    ∃ c more, Nat.toDigits 10 n = c :: more ∧ c.isDigit = true := by
  obtain ⟨c, more, hdigits⟩ := List.exists_cons_of_ne_nil (Nat.toDigits_ne_nil (n := n) (b := 10))
  refine ⟨c, more, hdigits, ?_⟩
  apply Nat.isDigit_of_mem_toDigits (b := 10) (n := n) (by decide) (by decide)
  rw [hdigits]
  exact List.mem_cons_self

theorem value_minus (depth : Nat) (rest : List Char) :
    value depth ('-' :: rest) = number false rest := by
  rw [value]
  rfl

theorem value_int {n : Int} (hn : (Json.int n).Exact) (hrest : Closes rest) (depth : Nat) :
    value depth (spelled (.int n) ++ rest) = .ok (.int n, rest) := by
  obtain ⟨hlow, hhigh⟩ := hn
  have hmax : maxSignificand = 2 ^ 64 - 1 := rfl
  have hpow : Nat.pow 2 63 = 2 ^ 63 := rfl
  have hbelow : Int.ofNat (Nat.pow 2 63) = 2 ^ 63 := rfl
  have habove : Int.ofNat (Nat.pow 2 64) = 2 ^ 64 := rfl
  by_cases hpos : 0 ≤ n
  · have hnumber := number_toDigits (n := n.toNat) (by omega) hrest true
    obtain ⟨c, more, hdigits, hc⟩ := toDigits_eq_isDigit_cons n.toNat
    rw [spelled_int_of_nonneg hpos]
    rw [hdigits, List.cons_append] at hnumber ⊢
    rw [value_of_isDigit hc, hnumber, afterWhole_of_closes hrest, if_pos rfl,
      Int.toNat_of_nonneg hpos]
  · have hnumber := number_toDigits (n := (-n).toNat) (by omega) hrest false
    have hnonzero : (-n).toNat ≠ 0 := by omega
    have hfits : ¬ (-n).toNat > Nat.pow 2 63 := by omega
    have hvalue : -((-n).toNat : Int) = n := by omega
    have hcondition : ((-n).toNat == 0 || decide ((-n).toNat > Nat.pow 2 63)) = false := by
      rw [beq_eq_false_iff_ne.mpr hnonzero, decide_eq_false hfits, Bool.or_self]
    rw [spelled_int_of_neg hpos, List.cons_append, value_minus, hnumber,
      afterWhole_of_closes hrest, hcondition, hvalue]
    rfl

theorem value_str (text : String) (rest : List Char) (depth : Nat) :
    value depth (spelled (.str text) ++ rest) = .ok (.str text, rest) := by
  have hspelled : spelled (.str text) ++ rest = '\"' :: (spelledText text ++ '\"' :: rest) := by
    have hescape : spelled (.str text) = (escape text).toList := rfl
    rw [hescape, toList_escape, List.cons_append, List.append_assoc]
    rfl
  rw [hspelled, value]
  change (stringBody [] (spelledText text ++ '\"' :: rest)).map _ = _
  rw [stringBody_spelledText]
  rfl

/-- The text of a value starts with a character that is no blank and closes no list. -/
theorem spelled_eq_cons {value : Json} (h : value.Exact) :
    ∃ c more, spelled value = c :: more ∧ isSpace c = false ∧ c ≠ ']' := by
  cases value with
  | null => exact ⟨'n', _, rfl, rfl, by decide⟩
  | bool value =>
    cases value
    · exact ⟨'f', _, rfl, rfl, by decide⟩
    · exact ⟨'t', _, rfl, rfl, by decide⟩
  | int n =>
    by_cases hpos : 0 ≤ n
    · obtain ⟨c, more, hdigits, hc⟩ := toDigits_eq_isDigit_cons n.toNat
      refine ⟨c, more, ?_, isSpace_of_isDigit hc, ne_of_isDigit hc rfl⟩
      rw [spelled_int_of_nonneg hpos, hdigits]
    · exact ⟨'-', _, spelled_int_of_neg hpos, rfl, by decide⟩
  | float => exact h.elim
  | str text =>
    refine ⟨'\"', spelledText text ++ ['\"'], ?_, rfl, by decide⟩
    exact toList_escape text
  | arr items => exact ⟨'[', _, rfl, rfl, by decide⟩
  | obj fields => exact ⟨'\x7b', _, rfl, rfl, by decide⟩

/-! ## Lists -/

section

variable {item : List Char → Result Json} {read : List Json} {fuel : Nat} {c : Char}
  {text after : List Char} {found : Json}

/-- The first item of a list is read where it starts. -/
theorem items_first (hspace : isSpace c = false) (hc : c ≠ ']')
    (hitem : item (c :: text) = .ok (found, after)) :
    items item true read (fuel + 1) (c :: text) = items item false (found :: read) fuel after := by
  rw [items, skipSpace_cons hspace]
  simp only [if_true, hitem]

/-- Every other item is read behind a comma. -/
theorem items_later (hspace : isSpace c = false) (hc : c ≠ ']')
    (hitem : item (c :: text) = .ok (found, after)) :
    items item false read (fuel + 1) (',' :: c :: text) =
      items item false (found :: read) fuel after := by
  have hcomma : skipSpace (',' :: c :: text) = ',' :: c :: text := skipSpace_cons (by rfl) _
  rw [items, hcomma]
  split
  · next h => cases h
  · next h => exact absurd (List.cons.inj h).1 (by decide)
  · next h =>
    obtain ⟨rfl, rfl⟩ := List.cons.inj h
    rw [if_neg Bool.false_ne_true, if_pos (by rfl), skipSpace_cons hspace]
    split
    · next h => cases h
    · next h => exact absurd (List.cons.inj h).1 hc
    · simp only [hitem]

end

theorem closes_spelledItems (items : List Json) (rest : List Char) :
    Closes (spelledItems [','] items ++ ']' :: rest) := by
  cases items with
  | nil => exact closes_cons (by decide) _
  | cons => exact closes_cons (by decide) _

/-- The items of a list are read back, after those that were read before. -/
theorem items_spelled {item : List Char → Result Json} (rest : List Char) {values : List Json}
    (hexact : ExactItems values)
    (hitem : ∀ found ∈ values, ∀ rest, Closes rest →
      item (spelled found ++ rest) = .ok (found, rest))
    (first : Bool) (read : List Json) {fuel : Nat} (hfuel : values.length < fuel) :
    items item first read fuel
        (spelledItems (if first then [] else [',']) values ++ ']' :: rest) =
      .ok (read.reverse ++ values, rest) := by
  induction values generalizing first read fuel with
  | nil =>
    obtain ⟨fuel, rfl⟩ := Nat.exists_eq_add_one_of_ne_zero (Nat.ne_zero_of_lt hfuel)
    rw [spelledItems, List.nil_append, items, List.append_nil]
    rfl
  | cons found more ih =>
    obtain ⟨fuel, rfl⟩ := Nat.exists_eq_add_one_of_ne_zero (Nat.ne_zero_of_lt hfuel)
    obtain ⟨c, tail, hspelled, hspace, hc⟩ := spelled_eq_cons hexact.1
    have hnext := hitem found List.mem_cons_self _ (closes_spelledItems more rest)
    have hmore := ih hexact.2 (fun value hmem ↦ hitem value (List.mem_cons_of_mem _ hmem)) false
      (found :: read) (Nat.lt_of_succ_lt_succ hfuel)
    rw [hspelled] at hnext
    rw [List.reverse_cons, List.append_assoc, List.singleton_append] at hmore
    cases first with
    | true =>
      rw [if_pos rfl, spelledItems, hspelled, List.nil_append, List.append_assoc]
      exact (items_first hspace hc hnext).trans hmore
    | false =>
      rw [if_neg Bool.false_ne_true, spelledItems, hspelled, List.append_assoc, List.append_assoc]
      exact (items_later hspace hc hnext).trans hmore

/-! ## Objects -/

section

variable {item : List Char → Result Json} {read : List (String × Json)} {fuel : Nat} {key : String}
  {text after : List Char} {found : Json}

/-- Reads a field after the opening quote of its key, and then the fields behind it. -/
def readField (item : List Char → Result Json) (read : List (String × Json)) (fuel : Nat)
    (text : List Char) : Result (List (String × Json)) :=
  match stringBody [] text with
  | .error failure => .error failure
  | .ok (key, rest) =>
    match skipSpace rest with
    | [] => failNext .endInObject []
    | ':' :: rest =>
      match item rest with
      | .ok (value, rest) => fields item false (Entries.insert key value read) fuel rest
      | .error failure => .error failure
    | rest => failNext .expectedColon rest

theorem readField_spelled (hitem : item text = .ok (found, after)) :
    readField item read fuel (spelledText key ++ '\"' :: ':' :: text) =
      fields item false (Entries.insert key found read) fuel after := by
  have hskip : skipSpace (':' :: text) = ':' :: text := skipSpace_cons (by rfl) text
  rw [readField, stringBody_spelledText]
  simp only [hskip, hitem]

/-- The first field of an object is read where it starts. -/
theorem fields_first : fields item true read (fuel + 1) ('\"' :: text) =
    readField item read fuel text := by
  rw [fields]
  rfl

/-- Every other field is read behind a comma. -/
theorem fields_later : fields item false read (fuel + 1) (',' :: '\"' :: text) =
    readField item read fuel text := by
  rw [fields]
  rfl

end

theorem closes_spelledFields (fields : List (String × Json)) (rest : List Char) :
    Closes (spelledFields [','] fields ++ '\x7d' :: rest) := by
  cases fields with
  | nil => exact closes_cons (by decide) _
  | cons => exact closes_cons (by decide) _

/-- The fields of an object are read back, after those that were read before. -/
theorem fields_spelled {item : List Char → Result Json} (rest : List Char)
    {values : List (String × Json)}
    (hitem : ∀ entry ∈ values, ∀ rest, Closes rest →
      item (spelled entry.2 ++ rest) = .ok (entry.2, rest))
    (first : Bool) (read : List (String × Json)) (hsorted : Entries.Sorted (read ++ values))
    {fuel : Nat} (hfuel : values.length < fuel) :
    fields item first read fuel
        (spelledFields (if first then [] else [',']) values ++ '\x7d' :: rest) =
      .ok (read ++ values, rest) := by
  induction values generalizing first read fuel with
  | nil =>
    obtain ⟨fuel, rfl⟩ := Nat.exists_eq_add_one_of_ne_zero (Nat.ne_zero_of_lt hfuel)
    rw [spelledFields, List.nil_append, fields, List.append_nil]
    rfl
  | cons entry more ih =>
    obtain ⟨key, found⟩ := entry
    obtain ⟨fuel, rfl⟩ := Nat.exists_eq_add_one_of_ne_zero (Nat.ne_zero_of_lt hfuel)
    have hnext := hitem (key, found) List.mem_cons_self _ (closes_spelledFields more rest)
    have hinsert : Entries.insert key found read = read ++ [(key, found)] := hsorted.insert_middle
    have hread : read ++ [(key, found)] ++ more = read ++ (key, found) :: more := by
      rw [List.append_assoc, List.singleton_append]
    have hmore := ih (fun later hmem ↦ hitem later (List.mem_cons_of_mem _ hmem)) false
      (read ++ [(key, found)]) (by rw [hread]; exact hsorted) (Nat.lt_of_succ_lt_succ hfuel)
    rw [hread, ← hinsert] at hmore
    have hfield : readField item read fuel (spelledText key ++ '\"' :: ':' :: _) =
        .ok (read ++ (key, found) :: more, rest) := (readField_spelled hnext).trans hmore
    have htext (separator : List Char) :
        spelledFields separator ((key, found) :: more) ++ '\x7d' :: rest =
          separator ++ '\"' :: (spelledText key ++ '\"' :: ':' ::
            (spelled found ++ (spelledFields [','] more ++ '\x7d' :: rest))) := by
      rw [spelledFields]
      simp only [List.append_assoc, List.cons_append]
    cases first with
    | true =>
      rw [if_pos rfl, htext, List.nil_append, fields_first]
      exact hfield
    | false =>
      rw [if_neg Bool.false_ne_true, htext, List.singleton_append, fields_later]
      exact hfield

/-! ## Values -/

theorem length_le_spelledItems {items : List Json} (h : ExactItems items) (separator : List Char) :
    items.length ≤ (spelledItems separator items).length := by
  induction items generalizing separator with
  | nil => exact Nat.le_refl 0
  | cons item rest ih =>
    obtain ⟨c, tail, hspelled, -⟩ := spelled_eq_cons h.1
    have hrest := ih h.2 [',']
    rw [spelledItems, hspelled]
    simp only [List.length_append, List.length_cons]
    omega

theorem length_le_spelledFields (fields : List (String × Json)) (separator : List Char) :
    fields.length ≤ (spelledFields separator fields).length := by
  induction fields generalizing separator with
  | nil => exact Nat.le_refl 0
  | cons entry rest ih =>
    have hrest := ih [',']
    rw [spelledFields]
    simp only [List.length_append, List.length_cons]
    omega

mutual

/-- A value is read back from its text, whatever comes behind it that may. -/
theorem value_spelled : (given : Json) → given.Exact → ∀ depth, given.height ≤ depth →
    ∀ rest, Closes rest → value depth (spelled given ++ rest) = .ok (given, rest)
  | .null, _, depth, _, rest, _ => by
    rw [value]
    rfl
  | .bool true, _, depth, _, rest, _ => by
    rw [value]
    rfl
  | .bool false, _, depth, _, rest, _ => by
    rw [value]
    rfl
  | .int n, hexact, depth, _, rest, hrest => value_int hexact hrest depth
  | .float _, hexact, _, _, _, _ => hexact.elim
  | .str text, _, depth, _, rest, _ => value_str text rest depth
  | .arr given, hexact, depth, hdepth, rest, _ => by
    obtain ⟨depth, rfl⟩ := Nat.exists_eq_add_one_of_ne_zero (Nat.ne_zero_of_lt hdepth)
    have hlength : given.length < (spelledItems [] given ++ ']' :: rest).length + 1 := by
      have hle := length_le_spelledItems hexact []
      rw [List.length_append]
      omega
    have hitems := items_spelled rest hexact
      (itemsRead given hexact depth (Nat.le_of_succ_le_succ hdepth)) true [] hlength
    rw [if_pos rfl] at hitems
    rw [spelled, List.cons_append, List.append_assoc, List.singleton_append, value]
    change (items (value depth) true [] _ (spelledItems [] given ++ ']' :: rest)).map _ = _
    rw [hitems]
    rfl
  | .obj given, hexact, depth, hdepth, rest, _ => by
    obtain ⟨depth, rfl⟩ := Nat.exists_eq_add_one_of_ne_zero (Nat.ne_zero_of_lt hdepth)
    have hlength : given.length < (spelledFields [] given ++ '\x7d' :: rest).length + 1 := by
      have hle := length_le_spelledFields given []
      rw [List.length_append]
      omega
    have hfields := fields_spelled rest
      (fieldsRead given hexact.2 depth (Nat.le_of_succ_le_succ hdepth)) true [] hexact.1 hlength
    rw [if_pos rfl] at hfields
    rw [spelled, List.cons_append, List.append_assoc, List.singleton_append, value]
    change (fields (value depth) true [] _ (spelledFields [] given ++ '\x7d' :: rest)).map _ = _
    rw [hfields]
    rfl

theorem itemsRead : (given : List Json) → ExactItems given → ∀ depth, heightItems given ≤ depth →
    ∀ found ∈ given, ∀ rest, Closes rest →
      value depth (spelled found ++ rest) = .ok (found, rest)
  | [], _, _, _, _, hmem => nomatch hmem
  | item :: more, hexact, depth, hdepth, found, hmem => by
    rcases List.mem_cons.mp hmem with heq | hmem
    · rw [heq]
      exact value_spelled item hexact.1 depth ((Nat.le_max_left _ _).trans hdepth)
    · exact itemsRead more hexact.2 depth ((Nat.le_max_right _ _).trans hdepth) found hmem

theorem fieldsRead : (given : List (String × Json)) → ExactFields given → ∀ depth,
    heightFields given ≤ depth → ∀ found ∈ given, ∀ rest, Closes rest →
      value depth (spelled found.2 ++ rest) = .ok (found.2, rest)
  | [], _, _, _, _, hmem => nomatch hmem
  | (key, given) :: more, hexact, depth, hdepth, found, hmem => by
    rcases List.mem_cons.mp hmem with heq | hmem
    · rw [heq]
      exact value_spelled given hexact.1 depth ((Nat.le_max_left _ _).trans hdepth)
    · exact fieldsRead more hexact.2 depth ((Nat.le_max_right _ _).trans hdepth) found hmem

end

end Playbook.Json
