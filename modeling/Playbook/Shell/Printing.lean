import Playbook.Decimal.Reading
import Playbook.Decimal.Shortest
import Playbook.Text.Utf8

/-!
# Formatted printing

The escapes and directives of `printf`, and the escapes of `echo -e`.
-/

namespace Playbook.Shell.Printing

def simpleEscape? : Char → Option UInt8
  | 'a' => some 7
  | 'b' => some 8
  | 't' => some 9
  | 'n' => some 10
  | 'v' => some 11
  | 'f' => some 12
  | 'r' => some 13
  | 'e' => some 27
  | '\\' => some 92
  | '\"' => some 34
  | '\'' => some 39
  | _ => none

/-- Reads at most `limit` digits of a base. -/
def digits (base limit : Nat) (text : List Char) : Nat × List Char :=
  let run := (text.take limit).takeWhile fun c ↦ (Decimal.Integer.digitValue? base c).isSome
  (run.foldl (fun n c ↦ base * n + (Decimal.Integer.digitValue? base c).getD 0) 0,
    text.drop run.length)

/-- Four digits of base sixteen. -/
def upperHex (n : Nat) : String :=
  let digits := (Nat.toDigits 16 n).map Char.toUpper
  String.ofList (List.replicate (4 - digits.length) '0' ++ digits)

/-- The bytes of the escape after a backslash, and what follows it. A character that is not ASCII
stays written by its number. -/
def escape (text : List Char) : List UInt8 × List Char :=
  match text with
  | [] => ([92], [])
  | 'x' :: rest =>
    let (value, more) := digits 16 2 rest
    if more.length == rest.length then ([92, 120], rest) else ([UInt8.ofNat value], more)
  | 'u' :: rest =>
    let (value, more) := digits 16 4 rest
    if more.length == rest.length then ([92, 117], rest)
    else if value < 128 then ([UInt8.ofNat value], more)
    else (Text.Utf8.encode ("\\u" ++ upperHex value), more)
  | c :: rest =>
    if '0' ≤ c && c ≤ '7' then
      let (value, more) := digits 8 3 text
      ([UInt8.ofNat value], more)
    else match simpleEscape? c with
      | some byte => ([byte], rest)
      | none => (92 :: Text.Utf8.encode c.toString, rest)

def unescape : Nat → List Char → List UInt8
  | 0, _ => []
  | _, [] => []
  | fuel + 1, '\\' :: rest =>
    let (bytes, rest) := escape rest
    bytes ++ unescape fuel rest
  | fuel + 1, c :: rest => Text.Utf8.encode c.toString ++ unescape fuel rest

def pad (left : Bool) (width : Nat) (bytes : List UInt8) (fill : UInt8) : List UInt8 :=
  let missing := List.replicate (width - bytes.length) fill
  if left then bytes ++ missing else missing ++ bytes

def integer (text : String) : Int :=
  match Decimal.Integer.int64 text.toList with
  | .ok value => value
  | .error _ => 0

/-- A decimal with a fixed number of places, rounded from the exact value of a float. -/
def fixed (places : Nat) (x : Float) : String :=
  let b := Decimal.Binary.ofFloat x
  let scaled := Decimal.roundScaled (b.mantissa * Nat.pow 10 places * Nat.pow 2 b.exponent.toNat)
    (Nat.pow 2 (-b.exponent).toNat) 0
  let digits := Nat.toDigits 10 scaled
  let digits := List.replicate (places + 1 - digits.length) '0' ++ digits
  let whole := digits.take (digits.length - places)
  let sign := if Decimal.isNegative x then "-" else ""
  sign ++ String.ofList whole ++
    (if places == 0 then "" else "." ++ String.ofList (digits.drop whole.length))

def quoteChar (c : Char) : List Char :=
  if c.isAlphanum || c ∈ ['_', '-', '.', '/', ':', ',', '+', '@', '%', '='] then [c]
  else ['\\', c]

/-- The bytes that a directive makes of an argument. -/
def directive (c : Char) (precision : Option Nat) (argument : String) : List UInt8 :=
  match c with
  | 'f' => Text.Utf8.encode
      (fixed (precision.getD 6) ((Decimal.float? argument.toList).getD 0.0))
  | 's' =>
    let bytes := Text.Utf8.encode argument
    match precision with
    | some count => bytes.take count
    | none => bytes
  | 'q' =>
    if argument.isEmpty then [39, 39]
    else Text.Utf8.encode (String.ofList (argument.toList.flatMap quoteChar))
  | 'u' => Text.Utf8.encode (toString (integer argument))
  | 'X' => Text.Utf8.encode
      (String.ofList ((Nat.toDigits 16 (integer argument).toNat).map Char.toUpper))
  | 'd' => Text.Utf8.encode (toString (integer argument))
  | 'i' => Text.Utf8.encode (toString (integer argument))
  | 'x' => Text.Utf8.encode (String.ofList (Nat.toDigits 16 (integer argument).toNat))
  | 'o' => Text.Utf8.encode (String.ofList (Nat.toDigits 8 (integer argument).toNat))
  | 'c' => (Text.Utf8.encode argument).take 1
  | 'b' => unescape (argument.length + 1) argument.toList
  | _ => Text.Utf8.encode argument

/-- Goes through the format once; gives the bytes and the arguments that are left. -/
def pass : Nat → List Char → List String → List UInt8 × List String
  | 0, _, arguments => ([], arguments)
  | _, [], arguments => ([], arguments)
  | fuel + 1, '\\' :: rest, arguments =>
    let (bytes, rest) := escape rest
    let (more, arguments) := pass fuel rest arguments
    (bytes ++ more, arguments)
  | fuel + 1, '%' :: '%' :: rest, arguments =>
    let (more, arguments) := pass fuel rest arguments
    (37 :: more, arguments)
  | fuel + 1, '%' :: rest, arguments =>
    let flags := rest.takeWhile (· ∈ ['-', '0', '+', ' '])
    let (width, after) := digits 10 9 (rest.drop flags.length)
    let (precision, after) := match after with
      | '.' :: more =>
        let (count, more) := digits 10 9 more
        (some count, more)
      | more => (none, more)
    match after with
    | [] => ([37], arguments)
    | c :: rest =>
      let bytes := directive c precision (arguments.headD "")
      let fill : UInt8 := if '0' ∈ flags then 48 else 32
      let (more, arguments) := pass fuel rest (arguments.drop 1)
      (pad ('-' ∈ flags) width bytes fill ++ more, arguments)
  | fuel + 1, c :: rest, arguments =>
    let (more, arguments) := pass fuel rest arguments
    (Text.Utf8.encode c.toString ++ more, arguments)

/-- Goes through the format until no argument is left. -/
def passes (format : List Char) : Nat → List String → List UInt8
  | 0, _ => []
  | fuel + 1, arguments =>
    let (bytes, left) := pass (format.length + 1) format arguments
    if left.isEmpty || left.length == arguments.length then bytes
    else bytes ++ passes format fuel left

def printf (format : String) (arguments : List String) : List UInt8 :=
  passes format.toList (arguments.length + 1) arguments

end Playbook.Shell.Printing
