/-!
# Reading numbers

`nearest` is the float closest to a fraction, a tie going to the even mantissa. `float?` reads a
decimal numeral with optional point and exponent, or a name of infinity or of no number;
`Integer.parse` reads an integer in a given base and range and says what is wrong with any other
text.
-/

namespace Playbook.Decimal

/-- `numerator / denominator / 2 ^ exponent`, rounded to an integer with ties to even. -/
def roundScaled (numerator denominator : Nat) (exponent : Int) : Nat :=
  let n := numerator * Nat.pow 2 (-exponent).toNat
  let d := denominator * Nat.pow 2 exponent.toNat
  let quotient := n / d
  let rest := n % d
  if 2 * rest > d || (2 * rest == d && quotient % 2 == 1) then quotient + 1 else quotient

/-- The bits of the float nearest to a positive fraction. -/
def nearestBits (numerator denominator : Nat) : UInt64 :=
  let guess : Int := (numerator.log2 : Int) - denominator.log2 - 52
  let floor (e : Int) := numerator * Nat.pow 2 (-e).toNat / (denominator * Nat.pow 2 e.toNat)
  let exponent := if floor guess < Nat.pow 2 52 then guess - 1 else guess
  let exponent := max exponent (-1074)
  let mantissa := roundScaled numerator denominator exponent
  let (mantissa, exponent) :=
    if mantissa ≥ Nat.pow 2 53 then (mantissa / 2, exponent + 1) else (mantissa, exponent)
  if exponent > 971 then 0x7FF0000000000000
  else if mantissa < Nat.pow 2 52 then UInt64.ofNat mantissa
  else UInt64.ofNat ((exponent + 1075).toNat * Nat.pow 2 52 + (mantissa - Nat.pow 2 52))

def nearest (numerator denominator : Nat) : Float :=
  if numerator == 0 then 0.0 else Float.ofBits (nearestBits numerator denominator)

/-- The float nearest to `significand * 10 ^ exponent`. -/
def ofDecimal (significand : Nat) (exponent : Int) : Float :=
  if significand == 0 then 0.0
  else
    let magnitude := ((Nat.toDigits 10 significand).length : Int) + exponent
    if magnitude > 400 then Float.ofBits 0x7FF0000000000000
    else if magnitude < -400 then 0.0
    else nearest (significand * Nat.pow 10 exponent.toNat) (Nat.pow 10 (-exponent).toNat)

def digitsValue (digits : List Char) : Nat :=
  digits.foldl (fun n c ↦ 10 * n + (c.toNat - '0'.toNat)) 0

/-- The exponent part of a numeral: empty, or a marker, an optional sign and digits. -/
def exponent? : List Char → Option Int
  | [] => some 0
  | c :: rest =>
    if c == 'e' || c == 'E' then
      let (negative, digits) := match rest with
        | '-' :: more => (true, more)
        | '+' :: more => (false, more)
        | more => (false, more)
      if digits.isEmpty || !digits.all Char.isDigit then none
      else some (if negative then -(digitsValue digits : Int) else digitsValue digits)
    else none

def unsigned? (text : List Char) : Option Float :=
  let whole := text.takeWhile Char.isDigit
  let rest := text.dropWhile Char.isDigit
  let (fraction, rest) := match rest with
    | '.' :: more => (more.takeWhile Char.isDigit, more.dropWhile Char.isDigit)
    | more => ([], more)
  if whole.isEmpty && fraction.isEmpty then none
  else (exponent? rest).map fun exponent ↦
    ofDecimal (digitsValue (whole ++ fraction)) (exponent - fraction.length)

def named? (text : List Char) : Option Float :=
  let name := String.ofList (text.map Char.toLower)
  if name == "inf" || name == "infinity" then some (Float.ofBits 0x7FF0000000000000)
  else if name == "nan" then some (Float.ofBits 0x7FF8000000000000)
  else none

def float? (text : List Char) : Option Float :=
  let (negative, rest) := match text with
    | '-' :: more => (true, more)
    | '+' :: more => (false, more)
    | more => (false, more)
  let magnitude := match named? rest with
    | some x => some x
    | none => unsigned? rest
  magnitude.map fun x ↦ if negative then -x else x

namespace Integer

inductive Fault where
  | empty
  | digit
  | tooLarge
  | tooSmall
  deriving DecidableEq, Repr

def Fault.message : Fault → String
  | .empty => "cannot parse integer from empty string"
  | .digit => "invalid digit found in string"
  | .tooLarge => "number too large to fit in target type"
  | .tooSmall => "number too small to fit in target type"

def digitValue? (base : Nat) (c : Char) : Option Nat :=
  let value :=
    if c.isDigit then some (c.toNat - '0'.toNat)
    else if 'a' ≤ c && c ≤ 'z' then some (c.toNat - 'a'.toNat + 10)
    else if 'A' ≤ c && c ≤ 'Z' then some (c.toNat - 'A'.toNat + 10)
    else none
  value.filter (· < base)

/-- Reads digits onto `value`; the first one that is no digit or passes `limit` decides. -/
def magnitude (base limit : Nat) (tooFar : Fault) (value : Nat) : List Char → Except Fault Nat
  | [] => .ok value
  | c :: rest =>
    match digitValue? base c with
    | none => .error .digit
    | some d =>
      if base * value + d ≤ limit then magnitude base limit tooFar (base * value + d) rest
      else .error tooFar

/-- An integer from `-below` to `above` in the given base. A type without negative values has
`below = 0` and takes no minus sign. -/
def parse (base below above : Nat) (text : List Char) : Except Fault Int :=
  match text with
  | [] => .error .empty
  | ['+'] => .error .digit
  | ['-'] => .error .digit
  | '+' :: digits => (magnitude base above .tooLarge 0 digits).map Int.ofNat
  | '-' :: digits =>
    if below == 0 then .error .digit
    else (magnitude base below .tooSmall 0 digits).map fun n ↦ -(n : Int)
  | digits => (magnitude base above .tooLarge 0 digits).map Int.ofNat

def int64 (text : List Char) : Except Fault Int :=
  parse 10 (Nat.pow 2 63) (Nat.pow 2 63 - 1) text

def nat64 (base : Nat) (text : List Char) : Except Fault Int :=
  parse base 0 (Nat.pow 2 64 - 1) text

def nat32 (base : Nat) (text : List Char) : Except Fault Int :=
  parse base 0 (Nat.pow 2 32 - 1) text

end Integer

end Playbook.Decimal
