import Mathlib.Data.List.Basic
import Mathlib.Tactic.SplitIfs
import Playbook.Proofs.Outline.Reading
import Playbook.Template.Filter.Scalar

/-!
# Texts in Base64

Decoding accepts exactly what encoding produces, and gives back what was encoded. The first half of
the argument is about bytes: a group of symbols with its padding is read as the values it was made
from, and those values as the bytes they hold, unless a bit is left over. The second half is about
characters: symbols are characters of one byte, and UTF-8 is read back.
-/

namespace Playbook.Text

/-! ## UTF-8 -/

namespace Utf8

theorem encode_injective : Function.Injective encode := by
  intro first second h
  have hbytes : first.toUTF8 = second.toUTF8 := ByteArray.ext (Array.toList_inj.mp h)
  exact String.toByteArray_inj.mp hbytes

/-- Decoding accepts exactly what encoding produces. -/
theorem decode_eq_ok_iff {bytes : List UInt8} {text : String} :
    decode bytes = .ok text ↔ encode text = bytes := by
  have hbytes : encode text = bytes ↔ text.toByteArray = ⟨bytes.toArray⟩ := by
    constructor
    · rintro rfl
      exact ByteArray.ext (Array.toArray_toList).symm
    · intro h
      rw [encode, String.toUTF8_eq_toByteArray, h]
  rw [hbytes, decode, String.fromUTF8?]
  by_cases hvalid : ByteArray.IsValidUTF8 ⟨bytes.toArray⟩
  · rw [dif_pos hvalid]
    constructor
    · intro h
      obtain rfl := Except.ok.inj h
      rfl
    · intro h
      exact congrArg Except.ok (String.toByteArray_inj.mp h.symm)
  · rw [dif_neg hvalid]
    constructor
    · intro h
      cases h
    · intro h
      exact absurd (h ▸ text.isValidUTF8) hvalid

theorem encode_ofList_cons (c : Char) (rest : List Char) :
    encode (String.ofList (c :: rest)) =
      String.utf8EncodeChar c ++ encode (String.ofList rest) := by
  simp only [encode, String.toUTF8_eq_toByteArray, String.toByteArray_ofList]
  rw [List.utf8Encode_cons, List.utf8Encode_singleton, ByteArray.data_append,
    Array.toList_append, List.toList_data_toByteArray]

/-- Bytes that are characters of their own are what their text is encoded as. -/
theorem encode_ascii {bytes : List UInt8} (h : ∀ byte ∈ bytes, byte.toNat < 128) :
    encode (String.ofList (bytes.map fun byte ↦ Char.ofNat byte.toNat)) = bytes := by
  induction bytes with
  | nil => rfl
  | cons byte rest ih =>
    have hbyte : byte.toNat < 128 := h byte List.mem_cons_self
    have hrest : ∀ found ∈ rest, found.toNat < 128 := fun found hmem ↦
      h found (List.mem_cons_of_mem _ hmem)
    have hchar : (Char.ofNat byte.toNat).toNat = byte.toNat := by
      rw [Char.ofNat, dif_pos (Or.inl (by omega))]
      rfl
    have hsize : (Char.ofNat byte.toNat).utf8Size = 1 := by
      rw [Char.utf8Size_eq_one_iff, UInt32.le_iff_toNat_le]
      change (Char.ofNat byte.toNat).toNat ≤ 127
      omega
    have hsame : (Char.ofNat byte.toNat).val.toUInt8 = byte := by
      apply UInt8.toNat_inj.mp
      rw [UInt32.toNat_toUInt8]
      change (Char.ofNat byte.toNat).toNat % 256 = _
      omega
    rw [List.map_cons, encode_ofList_cons, String.utf8EncodeChar_eq_singleton hsize, hsame,
      ih hrest, List.singleton_append]

end Utf8

namespace Base64

open Outline (map_eq_ok)

/-! ## Symbols -/

theorem value?_symbol {n : Nat} (h : n < 64) : value? (symbol n) = some n := by
  revert n
  decide

theorem symbol_ne_pad {n : Nat} (h : n < 64) : symbol n ≠ pad := by
  intro hpad
  have hvalue := value?_symbol h
  rw [hpad] at hvalue
  cases hvalue

theorem toNat_symbol_lt (n : Nat) : (symbol n).toNat < 128 := by
  unfold symbol
  rw [UInt8.toNat_ofNat']
  split_ifs <;> omega

theorem symbol_of_value? {byte : UInt8} {n : Nat} (h : value? byte = some n) :
    n < 64 ∧ symbol n = byte := by
  have hsame {m : Nat} (hm : m = byte.toNat) : UInt8.ofNat m = byte := by
    rw [hm, UInt8.ofNat_toNat]
  simp only [value?] at h
  split_ifs at h
  all_goals
    obtain rfl := Option.some.inj h
    refine ⟨by omega, hsame ?_⟩
    split_ifs <;> omega

/-! ## Groups -/

/-- The values of the symbols that one, two or three bytes are written with. -/
def sextets : List UInt8 → List Nat
  | [a] => [a.toNat / 4, a.toNat % 4 * 16]
  | [a, b] => [a.toNat / 4, a.toNat % 4 * 16 + b.toNat / 16, b.toNat % 16 * 4]
  | [a, b, c] =>
    [a.toNat / 4, a.toNat % 4 * 16 + b.toNat / 16, b.toNat % 16 * 4 + c.toNat / 64, c.toNat % 64]
  | _ => []

theorem sextets_lt (group : List UInt8) : ∀ n ∈ sextets group, n < 64 := by
  intro n hn
  unfold sextets at hn
  split at hn
  · next a =>
    have ha := a.toNat_lt
    simp only [List.mem_cons, List.not_mem_nil, or_false] at hn
    omega
  · next a b =>
    have ha := a.toNat_lt
    have hb := b.toNat_lt
    simp only [List.mem_cons, List.not_mem_nil, or_false] at hn
    omega
  · next a b c =>
    have ha := a.toNat_lt
    have hb := b.toNat_lt
    have hc := c.toNat_lt
    simp only [List.mem_cons, List.not_mem_nil, or_false] at hn
    omega
  · cases hn

/-- Values are read as the bytes that are written with them, and with no others. -/
theorem bytesOf_eq_iff {found : List Nat} {group : List UInt8} (hsmall : ∀ n ∈ found, n < 64)
    (hlength : 2 ≤ found.length ∧ found.length ≤ 4) :
    bytesOf found = (group, true) ↔ sextets group = found := by
  have hpow : Nat.pow 2 8 = 256 := rfl
  constructor
  · intro h
    match found, hlength with
    | [p, q], _ =>
      simp only [List.forall_mem_cons] at hsmall
      obtain ⟨rfl, hexact⟩ := Prod.mk.inj h
      rw [beq_iff_eq] at hexact
      simp only [sextets, UInt8.toNat_ofNat', List.cons.injEq, and_true]
      omega
    | [p, q, r], _ =>
      simp only [List.forall_mem_cons] at hsmall
      obtain ⟨rfl, hexact⟩ := Prod.mk.inj h
      rw [beq_iff_eq] at hexact
      simp only [sextets, UInt8.toNat_ofNat', List.cons.injEq, and_true]
      omega
    | [p, q, r, s], _ =>
      simp only [List.forall_mem_cons] at hsmall
      obtain ⟨rfl, -⟩ := Prod.mk.inj h
      simp only [sextets, UInt8.toNat_ofNat', List.cons.injEq, and_true]
      omega
  · rintro rfl
    match group with
    | [a] =>
      have ha := a.toNat_lt
      simp only [sextets, bytesOf, Prod.mk.injEq, List.cons.injEq, and_true, beq_iff_eq,
        ← UInt8.toNat_inj, UInt8.toNat_ofNat']
      omega
    | [a, b] =>
      have ha := a.toNat_lt
      have hb := b.toNat_lt
      simp only [sextets, bytesOf, Prod.mk.injEq, List.cons.injEq, and_true, beq_iff_eq,
        ← UInt8.toNat_inj, UInt8.toNat_ofNat']
      omega
    | [a, b, c] =>
      have ha := a.toNat_lt
      have hb := b.toNat_lt
      have hc := c.toNat_lt
      simp only [sextets, bytesOf, Prod.mk.injEq, List.cons.injEq, and_true,
        ← UInt8.toNat_inj, UInt8.toNat_ofNat']
      omega
    | [] | _ :: _ :: _ :: _ :: _ => cases Nat.not_succ_le_zero 1 hlength.1

theorem encode_append {group : List UInt8} (hlength : group.length = 3) (rest : List UInt8) :
    encode (group ++ rest) = (sextets group).map symbol ++ encode rest := by
  match group with
  | [_, _, _] => rfl

/-- One, two or three bytes have one value more than they are, and padding up to four symbols. -/
theorem group_spelled {group : List UInt8} (hsome : group ≠ []) (hlength : group.length ≤ 3) :
    (sextets group).length = group.length + 1 ∧
      encode group = (sextets group).map symbol ++ List.replicate (3 - group.length) pad := by
  match group with
  | [_] | [_, _] | [_, _, _] => exact ⟨rfl, rfl⟩
  | _ :: _ :: _ :: _ :: _ => simp only [List.length_cons] at hlength; omega

theorem group_bounds {group : List UInt8} (h : sextets group ≠ []) :
    group ≠ [] ∧ group.length ≤ 3 := by
  match group with
  | [] | _ :: _ :: _ :: _ :: _ => cases h rfl
  | [_] | [_, _] | [_, _, _] => exact ⟨List.cons_ne_nil _ _, by simp⟩

/-! ## Padding -/

/-- What starts with padding has no symbols. -/
theorem eq_nil_of_pad {found : List Nat} {tail rest : List UInt8} (hsmall : ∀ n ∈ found, n < 64)
    (h : pad :: rest = found.map symbol ++ tail) : found = [] := by
  cases found with
  | nil => rfl
  | cons n more =>
    rw [List.map_cons, List.cons_append] at h
    exact absurd (List.cons.inj h).1.symm (symbol_ne_pad (hsmall n List.mem_cons_self))

/-- What does not start with padding starts with a symbol. -/
theorem exists_cons_of_ne_pad {found : List Nat} {padding : Nat} {byte : UInt8}
    {rest : List UInt8} (hpad : byte ≠ pad)
    (h : byte :: rest = found.map symbol ++ List.replicate padding pad) :
    ∃ n more, found = n :: more ∧ byte = symbol n ∧
      rest = more.map symbol ++ List.replicate padding pad := by
  cases found with
  | nil =>
    cases padding with
    | zero => cases h
    | succ padding => exact absurd (List.cons.inj h).1 hpad
  | cons n more =>
    obtain ⟨hbyte, hrest⟩ := List.cons.inj h
    exact ⟨n, more, rfl, hbyte, hrest⟩

theorem all_pad_iff {rest : List UInt8} :
    rest.all (· = pad) = true ↔ rest = List.replicate rest.length pad := by
  rw [List.all_eq_true, List.eq_replicate_iff]
  simp

/-- The last symbols are read up to their padding, which comes after two symbols or later. -/
theorem lastValues_eq_ok_iff {offset place padding : Nat} {text : List UInt8} {found : List Nat} :
    lastValues offset place text = .ok (found, padding) ↔
      (∀ n ∈ found, n < 64) ∧ text = found.map symbol ++ List.replicate padding pad ∧
        (padding = 0 ∨ 2 ≤ place + found.length) := by
  induction text generalizing place found with
  | nil =>
    rw [lastValues, eq_comm (a := ([] : List UInt8)), List.append_eq_nil_iff, List.map_eq_nil_iff,
      List.replicate_eq_nil_iff]
    constructor
    · intro h
      obtain ⟨rfl, rfl⟩ := Prod.mk.inj (Except.ok.inj h)
      exact ⟨nofun, ⟨rfl, rfl⟩, .inl rfl⟩
    · rintro ⟨-, ⟨rfl, rfl⟩, -⟩
      rfl
  | cons byte rest ih =>
    rw [lastValues]
    by_cases hpad : byte = pad
    · subst hpad
      rw [if_pos rfl]
      constructor
      · intro h
        split_ifs at h with hplace hall
        obtain ⟨rfl, rfl⟩ := Prod.mk.inj (Except.ok.inj h)
        refine ⟨nofun, ?_, .inr (by omega)⟩
        rw [List.map_nil, List.nil_append, List.replicate_succ, ← all_pad_iff.mp hall]
      · rintro ⟨hsmall, htext, hplace⟩
        obtain rfl := eq_nil_of_pad hsmall htext
        rw [List.map_nil, List.nil_append] at htext
        have hpadding : rest.length + 1 = padding := by
          simpa using congrArg List.length htext
        have hrest : rest = List.replicate rest.length pad := by
          rw [← hpadding, List.replicate_succ] at htext
          exact (List.cons.inj htext).2
        have hlate : ¬ place < 2 := by
          rw [List.length_nil] at hplace
          omega
        rw [if_neg hlate, if_pos (all_pad_iff.mpr hrest), hpadding]
    · rw [if_neg hpad]
      cases hvalue : value? byte with
      | none =>
        constructor
        · intro h
          cases h
        · rintro ⟨hsmall, htext, -⟩
          obtain ⟨n, more, rfl, rfl, -⟩ := exists_cons_of_ne_pad hpad htext
          rw [value?_symbol (hsmall n List.mem_cons_self)] at hvalue
          cases hvalue
      | some n =>
        obtain ⟨hn, rfl⟩ := symbol_of_value? hvalue
        constructor
        · intro h
          obtain ⟨⟨more, count⟩, hmore, hpair⟩ := map_eq_ok.mp h
          obtain ⟨rfl, rfl⟩ := Prod.mk.inj hpair
          obtain ⟨hsmall, htext, hplace⟩ := ih.mp hmore
          refine ⟨List.forall_mem_cons.mpr ⟨hn, hsmall⟩, congrArg (symbol n :: ·) htext, ?_⟩
          rw [List.length_cons]
          omega
        · rintro ⟨hsmall, htext, hplace⟩
          obtain ⟨m, more, rfl, hsymbol, hrest⟩ := exists_cons_of_ne_pad hpad htext
          obtain ⟨hm, hmore⟩ := List.forall_mem_cons.mp hsmall
          rw [hsymbol, value?_symbol hm] at hvalue
          obtain rfl := Option.some.inj hvalue
          rw [List.length_cons] at hplace
          exact map_eq_ok.mpr ⟨(more, padding), ih.mpr ⟨hmore, hrest, by omega⟩, rfl⟩

/-! ## Whole texts -/

/-- The last group is read as the bytes that it was made from. -/
theorem decodeLast_eq_ok_iff {offset : Nat} {text bytes : List UInt8} (hsome : text ≠ [])
    (hlength : text.length ≤ 4) :
    decodeLast offset text = .ok bytes ↔
      bytes ≠ [] ∧ bytes.length ≤ 3 ∧ encode bytes = text := by
  rw [decodeLast]
  constructor
  · intro h
    split at h
    · cases h
    · next found padding hvalues =>
      obtain ⟨hsmall, htext, hplace⟩ := lastValues_eq_ok_iff.mp hvalues
      have hcount : text.length = found.length + padding := by
        rw [htext, List.length_append, List.length_map, List.length_replicate]
      have hempty : ¬ (offset = 0 ∧ text = []) := fun hempty ↦ hsome hempty.2
      rw [if_neg hempty] at h
      split_ifs at h with hshort hfour
      rcases hread : bytesOf found with ⟨read, exact⟩
      rw [hread] at h
      cases exact with
      | false => cases h
      | true =>
        obtain rfl := Except.ok.inj h
        rw [bytesOf_eq_iff hsmall (by omega)] at hread
        subst hread
        have hnonempty : sextets read ≠ [] := List.ne_nil_of_length_pos (by omega)
        obtain ⟨hbytes, hthree⟩ := group_bounds hnonempty
        obtain ⟨hfound, hencode⟩ := group_spelled hbytes hthree
        have hpadding : 3 - read.length = padding := by omega
        refine ⟨hbytes, hthree, ?_⟩
        rw [hencode, htext, hpadding]
  · rintro ⟨hbytes, hthree, rfl⟩
    obtain ⟨hfound, hencode⟩ := group_spelled hbytes hthree
    have hpositive := List.length_pos_of_ne_nil hbytes
    have hvalues : lastValues offset 0 (encode bytes) = .ok (sextets bytes, 3 - bytes.length) :=
      lastValues_eq_ok_iff.mpr ⟨sextets_lt bytes, hencode, by omega⟩
    have hread : bytesOf (sextets bytes) = (bytes, true) :=
      (bytesOf_eq_iff (sextets_lt bytes) (by omega)).mpr rfl
    have hempty : ¬ (offset = 0 ∧ encode bytes = []) := fun hempty ↦ hsome hempty.2
    rw [hvalues]
    dsimp only
    rw [if_neg hempty, if_neg (by omega), if_neg (by omega), hread]
    rfl

theorem length_encode (bytes : List UInt8) :
    (encode bytes).length = 4 * ((bytes.length + 2) / 3) := by
  fun_induction encode bytes with
  | case1 | case2 | case3 => simp only [List.length_cons, List.length_nil]
  | case4 a b c rest ih =>
    simp only [List.length_cons]
    omega

/-- Symbols are read as the values that they stand for. -/
theorem values_eq_ok_iff {offset : Nat} {text : List UInt8} {found : List Nat} :
    values offset text = .ok found ↔ (∀ n ∈ found, n < 64) ∧ found.map symbol = text := by
  induction text generalizing offset found with
  | nil =>
    rw [values, List.map_eq_nil_iff]
    constructor
    · intro h
      obtain rfl := Except.ok.inj h
      exact ⟨nofun, rfl⟩
    · rintro ⟨-, rfl⟩
      rfl
  | cons byte rest ih =>
    rw [values]
    constructor
    · intro h
      cases hvalue : value? byte with
      | none =>
        rw [hvalue] at h
        cases h
      | some n =>
        rw [hvalue] at h
        obtain ⟨more, hmore, rfl⟩ := map_eq_ok.mp h
        obtain ⟨hn, rfl⟩ := symbol_of_value? hvalue
        obtain ⟨hsmall, rfl⟩ := ih.mp hmore
        exact ⟨List.forall_mem_cons.mpr ⟨hn, hsmall⟩, rfl⟩
    · rintro ⟨hsmall, htext⟩
      cases found with
      | nil => cases htext
      | cons n more =>
        obtain ⟨hn, hmore⟩ := List.forall_mem_cons.mp hsmall
        obtain ⟨rfl, hrest⟩ := List.cons.inj htext
        rw [value?_symbol hn]
        exact map_eq_ok.mpr ⟨more, ih.mpr ⟨hmore, hrest⟩, rfl⟩

theorem encode_eq_nil {bytes : List UInt8} : encode bytes = [] ↔ bytes = [] := by
  rw [← List.length_eq_zero_iff, ← List.length_eq_zero_iff, length_encode]
  omega

/-- More than four symbols start with those of three bytes. -/
theorem exists_group_of_encode {bytes rest : List UInt8} {a b c d e : UInt8}
    (h : encode bytes = a :: b :: c :: d :: e :: rest) :
    ∃ group later, bytes = group ++ later ∧ group.length = 3 ∧
      (sextets group).map symbol = [a, b, c, d] ∧ encode later = e :: rest := by
  match bytes with
  | x :: y :: z :: later =>
    refine ⟨[x, y, z], later, rfl, rfl, ?_⟩
    simp only [encode, List.cons.injEq] at h
    obtain ⟨rfl, rfl, rfl, rfl, hlater⟩ := h
    exact ⟨rfl, hlater⟩

/-- Decoding accepts exactly what encoding produces. Only at the start may there be nothing. -/
theorem decodeFrom_eq_ok_iff {offset : Nat} {text bytes : List UInt8} :
    decodeFrom offset text = .ok bytes ↔ encode bytes = text ∧ (offset = 0 ∨ bytes ≠ []) := by
  fun_induction decodeFrom offset text generalizing bytes with
  | case1 offset a b c d e rest fault hvalues =>
    constructor
    · intro h
      cases h
    · rintro ⟨htext, -⟩
      obtain ⟨group, -, -, -, hgroup, -⟩ := exists_group_of_encode htext
      rw [values_eq_ok_iff.mpr ⟨sextets_lt group, hgroup⟩] at hvalues
      cases hvalues
  | case2 offset a b c d e rest found hvalues ih =>
    obtain ⟨hsmall, hfound⟩ := values_eq_ok_iff.mp hvalues
    have hfour : found.length = 4 := by
      rw [← List.length_map (f := symbol), hfound]
      rfl
    rw [map_eq_ok]
    -- Four symbols without padding hold three whole bytes, so no bit can be left over here.
    constructor
    · rintro ⟨later, hlater, rfl⟩
      have hread : bytesOf found = ((bytesOf found).1, true) := by
        match found, hfour with
        | [_, _, _, _], _ => rfl
      rw [bytesOf_eq_iff hsmall (by omega)] at hread
      have hnonempty : sextets (bytesOf found).1 ≠ [] := by
        rw [hread]
        exact List.ne_nil_of_length_pos (by omega)
      obtain ⟨hgroup, hthree⟩ := group_bounds hnonempty
      obtain ⟨hlength, -⟩ := group_spelled hgroup hthree
      rw [hread] at hlength
      obtain ⟨hrest, -⟩ := ih.mp hlater
      refine ⟨?_, .inr (List.append_ne_nil_of_left_ne_nil hgroup _)⟩
      rw [encode_append (by omega), hread, hfound, hrest]
      rfl
    · rintro ⟨htext, -⟩
      obtain ⟨group, later, rfl, -, hgroup, hlater⟩ := exists_group_of_encode htext
      have hsame : sextets group = found := by
        rw [values_eq_ok_iff.mpr ⟨sextets_lt group, hgroup⟩] at hvalues
        exact Except.ok.inj hvalues
      have hread : bytesOf found = (group, true) := (bytesOf_eq_iff hsmall (by omega)).mpr hsame
      have hmore : later ≠ [] := by
        rintro rfl
        cases hlater
      exact ⟨later, ih.mpr ⟨hlater, .inr hmore⟩, by rw [hread]⟩
  | case3 offset text hshort =>
    cases htext : text with
    | nil =>
      have hread : decodeLast offset [] =
          if offset = 0 then .ok [] else .error (.length offset) := by
        simp [decodeLast, lastValues]
      rw [hread, encode_eq_nil]
      by_cases hoffset : offset = 0
      · simp [hoffset, eq_comm]
      · simp [hoffset]
    | cons a more =>
      have hlength : text.length ≤ 4 := by
        match text, hshort with
        | [], _ | [_], _ | [_, _], _ | [_, _, _], _ | [_, _, _, _], _ => simp
        | a :: b :: c :: d :: e :: rest, hshort => exact (hshort a b c d e rest rfl).elim
      have hsome : text ≠ [] := htext ▸ List.cons_ne_nil a more
      rw [← htext, decodeLast_eq_ok_iff hsome hlength]
      constructor
      · rintro ⟨hbytes, -, hencode⟩
        exact ⟨hencode, .inr hbytes⟩
      · rintro ⟨rfl, -⟩
        have hbytes : bytes ≠ [] := fun h ↦ hsome (encode_eq_nil.mpr h)
        rw [length_encode] at hlength
        exact ⟨hbytes, by omega, rfl⟩

/-- Decoding accepts exactly what encoding produces. -/
theorem decode_eq_ok_iff {text bytes : List UInt8} :
    decode text = .ok bytes ↔ encode bytes = text := by
  rw [decode]
  cases hlast : text.getLast? with
  | none =>
    obtain rfl := List.getLast?_eq_none_iff.mp hlast
    rw [encode_eq_nil]
    constructor
    · intro h
      exact (Except.ok.inj h).symm
    · rintro rfl
      rfl
  | some last =>
    dsimp only
    have hfrom : decodeFrom 0 text = .ok bytes ↔ encode bytes = text := by
      rw [decodeFrom_eq_ok_iff]
      simp
    by_cases hfault : text.length % 4 = 1 ∧ last ≠ pad ∧ (value? last).isNone = true
    · rw [if_pos hfault]
      constructor
      · intro h
        cases h
      · rintro rfl
        rw [length_encode] at hfault
        omega
    · rw [if_neg hfault, hfrom]

/-! ## Symbols as characters -/

theorem encode_lt (bytes : List UInt8) : ∀ byte ∈ encode bytes, byte.toNat < 128 := by
  have hpad : pad.toNat < 128 := by decide
  fun_induction encode bytes with
  | case1 => exact nofun
  | case2 | case3 => simp only [List.forall_mem_cons, toNat_symbol_lt, hpad]; simp
  | case4 a b c rest ih =>
    simp only [List.forall_mem_cons, toNat_symbol_lt, true_and]
    exact ih

theorem encode_encodeText (bytes : List UInt8) :
    Utf8.encode (encodeText bytes) = encode bytes :=
  Utf8.encode_ascii (encode_lt bytes)

end Base64

end Playbook.Text

namespace Playbook.Template.Filter

theorem base64Encode_str_iff {text coded : String} :
    base64Encode (.str text) = .str coded ↔
      Text.Base64.decode (Text.Utf8.encode coded) = .ok (Text.Utf8.encode text) := by
  rw [Text.Base64.decode_eq_ok_iff, ← Text.Base64.encode_encodeText,
    Text.Utf8.encode_injective.eq_iff]
  exact ⟨Value.str.inj, congrArg Value.str⟩

/-- A text is decoded to what it is the encoding of, and to nothing else. -/
theorem base64Decode_str_iff {coded : String} {value : Value} :
    base64Decode (.str coded) = .ok value ↔
      ∃ text, value = .str text ∧ base64Encode (.str text) = .str coded := by
  constructor
  · intro h
    simp only [base64Decode, Value.text] at h
    split at h
    · cases h
    · next bytes hbytes =>
      split at h
      · next text htext =>
        obtain rfl := Except.ok.inj h
        rw [← Text.Utf8.decode_eq_ok_iff.mp htext] at hbytes
        exact ⟨text, rfl, base64Encode_str_iff.mpr hbytes⟩
      · cases h
  · rintro ⟨text, rfl, h⟩
    have hbytes := base64Encode_str_iff.mp h
    have htext : Text.Utf8.decode (Text.Utf8.encode text) = .ok text :=
      Text.Utf8.decode_eq_ok_iff.mpr rfl
    simp only [base64Decode, Value.text, hbytes, htext]

/-- Decoding undoes encoding, and encoding undoes decoding wherever it succeeds; so a text has one
encoding. -/
theorem base64_inverse :
    (∀ text, base64Decode (base64Encode (.str text)) = .ok (.str text)) ∧
      (∀ coded value, base64Decode (.str coded) = .ok value ↔
        ∃ text, value = .str text ∧ base64Encode (.str text) = .str coded) ∧
      ∀ coded other value, base64Decode (.str coded) = .ok value →
        base64Decode (.str other) = .ok value → coded = other := by
  refine ⟨fun text ↦ base64Decode_str_iff.mpr ⟨text, rfl, rfl⟩,
    fun coded value ↦ base64Decode_str_iff, fun coded other value hcoded hother ↦ ?_⟩
  obtain ⟨text, rfl, htext⟩ := base64Decode_str_iff.mp hcoded
  obtain ⟨same, hsame, hagain⟩ := base64Decode_str_iff.mp hother
  obtain rfl := Value.str.inj hsame
  exact Value.str.inj (htext.symm.trans hagain)

/-- Characters of one to four bytes, whose last group has to be padded. -/
theorem base64_inverse_padded :
    base64Encode (.str "né€𝄞") = .str "bsOp4oKs8J2Eng==" ∧
      base64Decode (.str "bsOp4oKs8J2Eng==") = .ok (.str "né€𝄞") ∧
      ∀ other, base64Decode (.str other) = .ok (.str "né€𝄞") → "bsOp4oKs8J2Eng==" = other := by
  obtain ⟨hround, -, honly⟩ := base64_inverse
  have hencode : base64Encode (.str "né€𝄞") = .str "bsOp4oKs8J2Eng==" := by rfl
  have hdecode : base64Decode (.str "bsOp4oKs8J2Eng==") = .ok (.str "né€𝄞") := by
    rw [← hencode]
    exact hround "né€𝄞"
  exact ⟨hencode, hdecode, fun other ↦ honly _ other _ hdecode⟩

end Playbook.Template.Filter
