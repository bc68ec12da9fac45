import Playbook.Decimal.Reading
import Playbook.Json.Basic
import Playbook.Text.Utf8

/-!
# Reading JSON

`Json.parse` reads one value from a text, nested at most 127 levels deep; of two fields with one
key the later wins. A failure says what was wrong and where, as a line and a column in bytes. The
position is not carried along: a failure keeps the text it stopped at, and the position follows
from what came before.
-/

namespace Playbook.Json

inductive Fault where
  | endInList
  | endInObject
  | endInString
  | endInValue
  | expectedColon
  | expectedListEnd
  | expectedObjectEnd
  | expectedIdent
  | expectedValue
  | invalidEscape
  | invalidNumber
  | numberOutOfRange
  | controlCharacter
  | keyNotString
  | loneSurrogate
  | trailingComma
  | trailingCharacters
  | endOfHexEscape
  | tooDeep
  | mismatch (message : String)
  deriving DecidableEq, Repr

def Fault.message : Fault → String
  | .endInList => "EOF while parsing a list"
  | .endInObject => "EOF while parsing an object"
  | .endInString => "EOF while parsing a string"
  | .endInValue => "EOF while parsing a value"
  | .expectedColon => "expected `:`"
  | .expectedListEnd => "expected `,` or `]`"
  | .expectedObjectEnd => "expected `,` or `\x7d`"
  | .expectedIdent => "expected ident"
  | .expectedValue => "expected value"
  | .invalidEscape => "invalid escape"
  | .invalidNumber => "invalid number"
  | .numberOutOfRange => "number out of range"
  | .controlCharacter => "control character (\\u0000-\\u001F) found while parsing a string"
  | .keyNotString => "key must be a string"
  | .loneSurrogate => "lone leading surrogate in hex escape"
  | .trailingComma => "trailing comma"
  | .trailingCharacters => "trailing characters"
  | .endOfHexEscape => "unexpected end of hex escape"
  | .tooDeep => "recursion limit exceeded"
  | .mismatch message => message

/-- A fault met with `rest` still unread; the fault lies `ahead` bytes into it. -/
structure Failure where
  fault : Fault
  rest : List Char
  ahead : Nat

abbrev Result (α : Type) := Except Failure (α × List Char)

/-- The fault is in what was just read. -/
def failHere {α : Type} (fault : Fault) (rest : List Char) : Except Failure α :=
  .error ⟨fault, rest, 0⟩

/-- The fault is the character that comes next, or the end of the text. -/
def failNext {α : Type} (fault : Fault) (rest : List Char) : Except Failure α :=
  .error ⟨fault, rest, if rest.isEmpty then 0 else 1⟩

def isSpace (c : Char) : Bool :=
  c == ' ' || c == '\n' || c == '\t' || c == '\r'

def skipSpace (text : List Char) : List Char :=
  text.dropWhile isSpace

/-- Reads the remaining letters of a word whose first letter told which word it is. -/
def word (value : Json) : List Char → List Char → Result Json
  | [], text => .ok (value, text)
  | _ :: _, [] => failHere .endInValue []
  | expected :: more, c :: rest =>
    if c == expected then word value more rest else failHere .expectedIdent rest

def digitOf (c : Char) : Nat :=
  c.toNat - '0'.toNat

def maxSignificand : Nat := Nat.pow 2 64 - 1

/-- Digits are read onto the significand while it fits in 64 bits; the rest are counted. -/
def readDigits (significand used : Nat) : List Char → Nat × Nat × Nat × List Char
  | [] => (significand, used, 0, [])
  | c :: rest =>
    if c.isDigit then
      if 10 * significand + digitOf c ≤ maxSignificand then
        readDigits (10 * significand + digitOf c) (used + 1) rest
      else
        let skipped := (c :: rest).takeWhile Char.isDigit
        (significand, used, skipped.length, (c :: rest).dropWhile Char.isDigit)
    else (significand, used, 0, c :: rest)

def powerOfTen (n : Nat) : Float :=
  Decimal.nearest (Nat.pow 10 n) 1

/-- `value * 10 ^ exponent` by one multiplication or division within the range of powers of ten;
nothing if it is too large. -/
def scale (value : Float) (exponent : Int) : Option Float :=
  if 0 ≤ exponent then
    if exponent ≤ 308 then
      let scaled := value * powerOfTen exponent.toNat
      if scaled.isInf then none else some scaled
    else if value == 0.0 then some value
    else none
  else if -308 ≤ exponent then some (value / powerOfTen (-exponent).toNat)
  else if value == 0.0 then some value
  else scale (value / powerOfTen 308) (exponent + 308)
termination_by (-exponent).toNat
decreasing_by omega

def finishFloat (positive : Bool) (significand : Nat) (exponent : Int) (rest : List Char) :
    Result Json :=
  match scale (UInt64.ofNat significand).toFloat exponent with
  | some x => .ok (.float (if positive then x else -x), rest)
  | none => failHere .numberOutOfRange rest

/-- Reads digits onto an exponent; nothing once it passes 31 bits. -/
def readExponent (exponent : Nat) : List Char → Option Nat × List Char
  | [] => (some exponent, [])
  | c :: rest =>
    if c.isDigit then
      if 10 * exponent + digitOf c < Nat.pow 2 31 then readExponent (10 * exponent + digitOf c) rest
      else (none, rest)
    else (some exponent, c :: rest)

/-- Reads the exponent of a number after its marker. -/
def exponentPart (positive : Bool) (significand : Nat) (start : Int) (text : List Char) :
    Result Json :=
  let (upward, text) := match text with
    | '+' :: rest => (true, rest)
    | '-' :: rest => (false, rest)
    | rest => (true, rest)
  match text with
  | [] => failHere .endInValue []
  | c :: rest =>
    if !c.isDigit then failHere .invalidNumber rest
    else match readExponent (digitOf c) rest with
      | (some e, rest) =>
        finishFloat positive significand (if upward then start + e else start - e) rest
      | (none, rest) =>
        if significand != 0 && upward then failHere .numberOutOfRange rest
        else .ok (.float (if positive then 0.0 else -0.0), rest.dropWhile Char.isDigit)

/-- Reads the digits after the point of a number. -/
def fractionPart (positive : Bool) (significand : Nat) (start : Int) (text : List Char) :
    Result Json :=
  let (significand, used, skipped, rest) := readDigits significand 0 text
  if used == 0 && skipped == 0 then
    failNext (if rest.isEmpty then .endInValue else .invalidNumber) rest
  else match rest with
    | 'e' :: rest => exponentPart positive significand (start - used) rest
    | 'E' :: rest => exponentPart positive significand (start - used) rest
    | rest => finishFloat positive significand (start - used) rest

/-- What may follow the whole part of a number; `skipped` of its digits did not fit. -/
def afterWhole (positive : Bool) (significand skipped : Nat) (rest : List Char) : Result Json :=
  match rest with
  | '.' :: rest => fractionPart positive significand skipped rest
  | 'e' :: rest => exponentPart positive significand skipped rest
  | 'E' :: rest => exponentPart positive significand skipped rest
  | rest =>
    if skipped != 0 then finishFloat positive significand skipped rest
    else if positive then .ok (.int significand, rest)
    else if significand == 0 || significand > Nat.pow 2 63 then
      .ok (.float (-(UInt64.ofNat significand).toFloat), rest)
    else .ok (.int (-(significand : Int)), rest)

/-- Reads a number after its sign. -/
def number (positive : Bool) : List Char → Result Json
  | [] => failHere .endInValue []
  | '0' :: rest =>
    if rest.head?.any Char.isDigit then failNext .invalidNumber rest
    else afterWhole positive 0 0 rest
  | c :: rest =>
    if c.isDigit then
      let (significand, _, skipped, rest) := readDigits (digitOf c) 0 rest
      afterWhole positive significand skipped rest
    else failHere .invalidNumber rest

def hexValue? (c : Char) : Option Nat :=
  Decimal.Integer.digitValue? 16 c

/-- The value of the four hexadecimal digits at the head of `text`. -/
def hexUnit (text : List Char) : Except Failure Nat :=
  match text with
  | a :: b :: c :: d :: rest =>
    match hexValue? a, hexValue? b, hexValue? c, hexValue? d with
    | some a, some b, some c, some d => .ok (((a * 16 + b) * 16 + c) * 16 + d)
    | _, _, _, _ => .error ⟨.invalidEscape, a :: b :: c :: d :: rest, 4⟩
  | short =>
    if (Text.Utf8.encode (String.ofList short)).length < 4 then failHere .endInString []
    else .error ⟨.invalidEscape, short, 4⟩

/-- Reads a character written as one or two 16-bit units; the count is of characters read. -/
def unicodeEscape (text : List Char) : Except Failure (Char × Nat) := do
  let first ← hexUnit text
  let rest := text.drop 4
  if 0xDC00 ≤ first && first ≤ 0xDFFF then failHere .loneSurrogate rest
  else if first < 0xD800 || first > 0xDBFF then return (Char.ofNat first, 4)
  else match rest with
    | [] => failHere .endInString []
    | '\\' :: [] => failHere .endInString []
    | '\\' :: 'u' :: rest =>
      let second ← hexUnit rest
      if second < 0xDC00 || second > 0xDFFF then failHere .loneSurrogate (rest.drop 4)
      else return (Char.ofNat ((first - 0xD800) * 0x400 + (second - 0xDC00) + 0x10000), 10)
    | '\\' :: rest => .error ⟨.endOfHexEscape, rest, 1⟩
    | rest => .error ⟨.endOfHexEscape, rest, 1⟩

/-- The character that an escape stands for, and how many characters follow its backslash. -/
def escapeSequence : List Char → Except Failure (Char × Nat)
  | [] => failHere .endInString []
  | '\"' :: _ => .ok ('\"', 1)
  | '\\' :: _ => .ok ('\\', 1)
  | '/' :: _ => .ok ('/', 1)
  | 'b' :: _ => .ok ('\x08', 1)
  | 'f' :: _ => .ok ('\x0C', 1)
  | 'n' :: _ => .ok ('\n', 1)
  | 'r' :: _ => .ok ('\r', 1)
  | 't' :: _ => .ok ('\t', 1)
  | 'u' :: rest => (unicodeEscape rest).map fun (c, n) ↦ (c, n + 1)
  | _ :: rest => failHere .invalidEscape rest

/-- Reads a string after its opening quote; `read` holds its characters so far, last first. -/
def stringBody (read : List Char) : List Char → Result String
  | [] => failHere .endInString []
  | '\"' :: rest => .ok (String.ofList read.reverse, rest)
  | '\\' :: rest =>
    match escapeSequence rest with
    | .ok (c, length) => stringBody (c :: read) (rest.drop length)
    | .error failure => .error failure
  | c :: rest =>
    if c.toNat < 0x20 then failHere .controlCharacter rest else stringBody (c :: read) rest
termination_by text => text.length
decreasing_by all_goals simp only [List.length_drop, List.length_cons]; omega

/-- Reads the items of a list that are left, up to its closing bracket. -/
def items (item : List Char → Result Json) (first : Bool) (read : List Json) :
    Nat → List Char → Result (List Json)
  | 0, text => failNext .endInList text
  | fuel + 1, text =>
    let next (text : List Char) : Result (List Json) :=
      match item text with
      | .ok (value, rest) => items item false (value :: read) fuel rest
      | .error failure => .error failure
    match skipSpace text with
    | [] => failNext .endInList []
    | ']' :: rest => .ok (read.reverse, rest)
    | c :: rest =>
      if first then next (c :: rest)
      else if c == ',' then
        match skipSpace rest with
        | [] => failNext .endInValue []
        | ']' :: rest => failNext .trailingComma (']' :: rest)
        | rest => next rest
      else failNext .expectedListEnd (c :: rest)

/-- Reads the fields of an object that are left, up to its closing brace. -/
def fields (item : List Char → Result Json) (first : Bool) (read : List (String × Json)) :
    Nat → List Char → Result (List (String × Json))
  | 0, text => failNext .endInObject text
  | fuel + 1, text =>
    let next (text : List Char) : Result (List (String × Json)) :=
      match stringBody [] text with
      | .error failure => .error failure
      | .ok (key, rest) =>
        match skipSpace rest with
        | [] => failNext .endInObject []
        | ':' :: rest =>
          match item rest with
          | .ok (value, rest) => fields item false (Entries.insert key value read) fuel rest
          | .error failure => .error failure
        | rest => failNext .expectedColon rest
    match skipSpace text with
    | [] => failNext .endInObject []
    | '\x7d' :: rest => .ok (read, rest)
    | c :: rest =>
      if first then
        if c == '\"' then next rest else failNext .keyNotString (c :: rest)
      else if c == ',' then
        match skipSpace rest with
        | [] => failNext .endInValue []
        | '\"' :: rest => next rest
        | '\x7d' :: rest => failNext .trailingComma ('\x7d' :: rest)
        | rest => failNext .keyNotString rest
      else failNext .expectedObjectEnd (c :: rest)

/-- Reads a value with at most `depth` levels of lists and objects. -/
def value (depth : Nat) (text : List Char) : Result Json :=
  match skipSpace text with
  | [] => failNext .endInValue []
  | 'n' :: rest => word .null ['u', 'l', 'l'] rest
  | 't' :: rest => word (.bool true) ['r', 'u', 'e'] rest
  | 'f' :: rest => word (.bool false) ['a', 'l', 's', 'e'] rest
  | '-' :: rest => number false rest
  | '\"' :: rest => (stringBody [] rest).map fun (text, rest) ↦ (.str text, rest)
  | '[' :: rest =>
    match depth with
    | 0 => failNext .tooDeep ('[' :: rest)
    | depth + 1 =>
      (items (value depth) true [] (rest.length + 1) rest).map fun (read, rest) ↦ (.arr read, rest)
  | '\x7b' :: rest =>
    match depth with
    | 0 => failNext .tooDeep ('\x7b' :: rest)
    | depth + 1 =>
      (fields (value depth) true [] (rest.length + 1) rest).map fun (read, rest) ↦
        (.obj read, rest)
  | c :: rest => if c.isDigit then number true (c :: rest) else failNext .expectedValue (c :: rest)

def maxDepth : Nat := 127

/-- Where a failure lies: the line, and the bytes of that line before it. -/
def Failure.position (failure : Failure) (text : List Char) : Nat × Nat :=
  let bytes (chars : List Char) := Text.Utf8.encode (String.ofList chars)
  let all := bytes text
  let before := all.take (all.length - (bytes failure.rest).length + failure.ahead)
  let line := before.count 10 + 1
  (line, (before.reverse.takeWhile (· != 10)).length)

def Failure.message (failure : Failure) (text : List Char) : String :=
  let (line, column) := failure.position text
  s!"{failure.fault.message} at line {line} column {column}"

/-- Nothing but blanks may follow a value. -/
def finish {α : Type} (result : Result α) : Except Failure α :=
  match result with
  | .error failure => .error failure
  | .ok (read, rest) =>
    match skipSpace rest with
    | [] => .ok read
    | rest => failNext .trailingCharacters rest

def parse (text : String) : Except String Json :=
  let chars := text.toList
  (finish (value maxDepth chars)).mapError (·.message chars)

/-- Reads a list, and says of any other value that it is none. -/
def list (text : List Char) : Result (List Json) :=
  match skipSpace text with
  | '[' :: rest => items (value (maxDepth - 1)) true [] (rest.length + 1) rest
  | '\x7b' :: rest => failHere (.mismatch ((Json.obj []).mismatch "a sequence")) ('\x7b' :: rest)
  | rest =>
    match value maxDepth rest with
    | .ok (other, rest) => failHere (.mismatch (other.mismatch "a sequence")) rest
    | .error failure => .error failure

def parseList (text : String) : Except String (List Json) :=
  let chars := text.toList
  (finish (list chars)).mapError (·.message chars)

end Playbook.Json
