/-!
# UTF-8

Reading bytes as text. `decode` accepts exactly the well-formed byte sequences and otherwise says
where the first fault is; `lossy` never fails and puts U+FFFD for every maximal broken part.
-/

namespace Playbook.Text.Utf8

/-- The first fault in a byte sequence: where it starts, and how many bytes are wrong. No width
means that the sequence ends inside a character. -/
structure Malformed where
  index : Nat
  width : Option Nat
  deriving DecidableEq, Repr

def Malformed.message (fault : Malformed) : String :=
  match fault.width with
  | some width => s!"invalid utf-8 sequence of {width} bytes from index {fault.index}"
  | none => s!"incomplete utf-8 byte sequence from index {fault.index}"

def isTail (byte : UInt8) : Bool :=
  0x80 ≤ byte && byte ≤ 0xBF

/-- The bytes that may follow the lead byte of a character of three or four bytes. -/
def mayFollow (lead second : UInt8) : Bool :=
  if lead == 0xE0 then 0xA0 ≤ second && second ≤ 0xBF
  else if lead == 0xED then 0x80 ≤ second && second ≤ 0x9F
  else if lead == 0xF0 then 0x90 ≤ second && second ≤ 0xBF
  else if lead == 0xF4 then 0x80 ≤ second && second ≤ 0x8F
  else isTail second

/-- What stands at the head of a byte sequence. -/
inductive Head where
  | char (value : Char) (tail : Nat)
  | broken (width : Option Nat)

def tailBits (byte : UInt8) : Nat :=
  byte.toNat % 64

/-- Reads the character that starts with `lead`; `rest` are the bytes after it. -/
def head (lead : UInt8) (rest : List UInt8) : Head :=
  if lead < 0x80 then .char (Char.ofNat lead.toNat) 0
  else if 0xC2 ≤ lead && lead ≤ 0xDF then
    match rest with
    | [] => .broken none
    | b :: _ =>
      if isTail b then .char (Char.ofNat (lead.toNat % 32 * 64 + tailBits b)) 1
      else .broken (some 1)
  else if 0xE0 ≤ lead && lead ≤ 0xEF then
    match rest with
    | [] => .broken none
    | b :: more =>
      if !mayFollow lead b then .broken (some 1)
      else match more with
        | [] => .broken none
        | c :: _ =>
          if isTail c then
            .char (Char.ofNat ((lead.toNat % 16 * 64 + tailBits b) * 64 + tailBits c)) 2
          else .broken (some 2)
  else if 0xF0 ≤ lead && lead ≤ 0xF4 then
    match rest with
    | [] => .broken none
    | b :: more =>
      if !mayFollow lead b then .broken (some 1)
      else match more with
        | [] => .broken none
        | c :: more =>
          if !isTail c then .broken (some 2)
          else match more with
            | [] => .broken none
            | d :: _ =>
              if isTail d then
                .char (Char.ofNat
                  (((lead.toNat % 8 * 64 + tailBits b) * 64 + tailBits c) * 64 + tailBits d)) 3
              else .broken (some 3)
  else .broken (some 1)

/-- The first fault of `bytes`, which stand at `index` in the whole. -/
def fault (index : Nat) : List UInt8 → Option Malformed
  | [] => none
  | lead :: rest =>
    match head lead rest with
    | .char _ tail => fault (index + 1 + tail) (rest.drop tail)
    | .broken width => some ⟨index, width⟩
termination_by bytes => bytes.length
decreasing_by simp only [List.length_drop, List.length_cons]; omega

def lossyList : List UInt8 → List Char
  | [] => []
  | lead :: rest =>
    match head lead rest with
    | .char value tail => value :: lossyList (rest.drop tail)
    | .broken (some width) => '\uFFFD' :: lossyList (rest.drop (width - 1))
    | .broken none => ['\uFFFD']
termination_by bytes => bytes.length
decreasing_by all_goals simp only [List.length_drop, List.length_cons]; omega

def lossy (bytes : List UInt8) : String :=
  String.ofList (lossyList bytes)

def encode (text : String) : List UInt8 :=
  text.toUTF8.data.toList

def decode (bytes : List UInt8) : Except Malformed String :=
  match String.fromUTF8? ⟨bytes.toArray⟩ with
  | some text => .ok text
  | none => .error ((fault 0 bytes).getD ⟨0, none⟩)

end Playbook.Text.Utf8
