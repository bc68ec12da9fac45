/-!
# Base64

Three bytes become four symbols of six bits; a rest of one or two bytes is filled up with padding.
Decoding accepts exactly what encoding produces, and says where the first fault is otherwise.
-/

namespace Playbook.Text.Base64

inductive Fault where
  | symbol (byte : UInt8) (offset : Nat)
  | length (count : Nat)
  /-- The last symbol carries bits that belong to no byte. -/
  | lastSymbol (byte : UInt8) (offset : Nat)
  | padding
  deriving DecidableEq, Repr

def Fault.message : Fault → String
  | .symbol byte offset => s!"Invalid symbol {byte}, offset {offset}."
  | .length count => s!"Invalid input length: {count}"
  | .lastSymbol byte offset => s!"Invalid last symbol {byte}, offset {offset}."
  | .padding => "Invalid padding"

def pad : UInt8 := 61

/-- The symbol for a number below 64. -/
def symbol (n : Nat) : UInt8 :=
  UInt8.ofNat
    (if n < 26 then n + 65 else if n < 52 then n + 71 else if n < 62 then n - 4
    else if n = 62 then 43 else 47)

def value? (byte : UInt8) : Option Nat :=
  let n := byte.toNat
  if 65 ≤ n ∧ n ≤ 90 then some (n - 65)
  else if 97 ≤ n ∧ n ≤ 122 then some (n - 71)
  else if 48 ≤ n ∧ n ≤ 57 then some (n + 4)
  else if n = 43 then some 62
  else if n = 47 then some 63
  else none

def encode : List UInt8 → List UInt8
  | [] => []
  | [a] => [symbol (a.toNat / 4), symbol (a.toNat % 4 * 16), pad, pad]
  | [a, b] =>
    [symbol (a.toNat / 4), symbol (a.toNat % 4 * 16 + b.toNat / 16), symbol (b.toNat % 16 * 4), pad]
  | a :: b :: c :: rest =>
    symbol (a.toNat / 4) :: symbol (a.toNat % 4 * 16 + b.toNat / 16) ::
      symbol (b.toNat % 16 * 4 + c.toNat / 64) :: symbol (c.toNat % 64) :: encode rest

def encodeText (bytes : List UInt8) : String :=
  String.ofList ((encode bytes).map fun byte ↦ Char.ofNat byte.toNat)

/-- The values of symbols that start at an offset. -/
def values (offset : Nat) : List UInt8 → Except Fault (List Nat)
  | [] => .ok []
  | byte :: rest =>
    match value? byte with
    | none => .error (.symbol byte offset)
    | some n => (values (offset + 1) rest).map (n :: ·)

/-- The bytes of two, three or four values, and whether no bit is left over. -/
def bytesOf : List Nat → List UInt8 × Bool
  | [a, b] => ([UInt8.ofNat (a * 4 + b / 16)], b % 16 == 0)
  | [a, b, c] =>
    ([UInt8.ofNat (a * 4 + b / 16), UInt8.ofNat (b % 16 * 16 + c / 4)], c % 4 == 0)
  | [a, b, c, d] =>
    ([UInt8.ofNat (a * 4 + b / 16), UInt8.ofNat (b % 16 * 16 + c / 4),
      UInt8.ofNat (c % 4 * 64 + d)], true)
  | _ => ([], true)

/-- Reads the symbols of the last group up to its padding. Padding may stand neither before the
third place nor before another symbol. -/
def lastValues (offset : Nat) : (place : Nat) → List UInt8 → Except Fault (List Nat × Nat)
  | _, [] => .ok ([], 0)
  | place, byte :: rest =>
    if byte = pad then
      if place < 2 then .error (.symbol byte (offset + place))
      else if rest.all (· = pad) then .ok ([], rest.length + 1)
      else .error (.symbol pad (offset + place))
    else
      match value? byte with
      | none => .error (.symbol byte (offset + place))
      | some n =>
        (lastValues offset (place + 1) rest).map fun (more, padding) ↦ (n :: more, padding)

/-- Decodes the last group, which has at most four places. -/
def decodeLast (offset : Nat) (group : List UInt8) : Except Fault (List UInt8) :=
  match lastValues offset 0 group with
  | .error fault => .error fault
  | .ok (found, padding) =>
    if offset = 0 ∧ group = [] then .ok []
    else if found.length < 2 then .error (.length (offset + found.length))
    else if (found.length + padding) % 4 ≠ 0 then .error .padding
    else
      let (bytes, exact) := bytesOf found
      if exact then .ok bytes
      else
        let last := found.length - 1
        .error (.lastSymbol (group.getD last pad) (offset + last))

/-- Decodes groups of four; the last one may be padded. -/
def decodeFrom (offset : Nat) : List UInt8 → Except Fault (List UInt8)
  | a :: b :: c :: d :: e :: rest =>
    match values offset [a, b, c, d] with
    | .error fault => .error fault
    | .ok found => (decodeFrom (offset + 4) (e :: rest)).map ((bytesOf found).1 ++ ·)
  | group => decodeLast offset group

/-- Decodes a text. A last byte behind whole groups that is no symbol is reported first. -/
def decode (text : List UInt8) : Except Fault (List UInt8) :=
  match text.getLast? with
  | some last =>
    if text.length % 4 = 1 ∧ last ≠ pad ∧ (value? last).isNone then
      .error (.symbol last (text.length - 1))
    else decodeFrom 0 text
  | none => .ok []

end Playbook.Text.Base64
