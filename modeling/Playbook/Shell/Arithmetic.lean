import Playbook.Decimal.Reading
import Playbook.SortedMap

/-!
# Arithmetic of the shell

Integer expressions with variables; a variable without a value counts as zero.
-/

namespace Playbook.Shell.Arithmetic

inductive Symbol where
  | number (value : Int)
  | operator (text : String)
  deriving DecidableEq

def operators : List String :=
  ["**", "<=", ">=", "==", "!=", "&&", "||", "+", "-", "*", "/", "%", "<", ">", "!", "(", ")"]

def isNameChar (c : Char) : Bool := c.isAlphanum || c == '_'

def digitsIn? (base : Nat) (digits : List Char) : Option Nat :=
  digits.foldlM (fun n c ↦ (Decimal.Integer.digitValue? base c).map (base * n + ·)) 0

/-- The integer of 64 bits that an integer is cut down to. -/
def wrapped (n : Int) : Int := Int.bmod n (Nat.pow 2 64)

/-- A numeral with an optional sign. After a zero it is octal, and after `0x` hexadecimal. -/
def numeral? (text : List Char) : Option Int :=
  let (negative, digits) := match text with
    | '-' :: rest => (true, rest)
    | rest => (false, rest)
  let magnitude := match digits with
    | [] => none
    | '0' :: 'x' :: rest => digitsIn? 16 rest
    | '0' :: rest => digitsIn? 8 rest
    | digits => digitsIn? 10 digits
  magnitude.map fun n ↦ wrapped (if negative then -n else n)

def symbols (values : SortedMap String) : Nat → List Char → Option (List Symbol)
  | 0, _ => none
  | _, [] => some []
  | fuel + 1, c :: rest =>
    if c == ' ' || c == '\t' || c == '\n' || c == '$' then symbols values fuel rest
    else if isNameChar c then
      let word := (c :: rest).takeWhile isNameChar
      let value := if c.isDigit then numeral? word
        else some ((numeral? ((values.get? (String.ofList word)).getD "").toList).getD 0)
      value.bind fun value ↦
        (symbols values fuel ((c :: rest).drop word.length)).map (.number value :: ·)
    else
      match operators.find? (·.toList.isPrefixOf (c :: rest)) with
      | some name =>
        (symbols values fuel ((c :: rest).drop name.length)).map (.operator name :: ·)
      | none => none

/-- The binary operators by rank, the loosest first. -/
def ranks : List (List String) :=
  [["||"], ["&&"], ["==", "!="], ["<", ">", "<=", ">="], ["+", "-"], ["*", "/", "%"], ["**"]]

def truth (value : Bool) : Int := if value then 1 else 0

/-- A power by repeated squaring, times `result`; an exponent of 64 bits needs as many steps. -/
def power : (steps : Nat) → (base : Int) → (exponent : Nat) → (result : Int) → Int
  | 0, _, _, result => result
  | steps + 1, base, exponent, result =>
    power steps (wrapped (base * base)) (exponent / 2)
      (if exponent % 2 == 1 then wrapped (result * base) else result)

def apply (name : String) (a b : Int) : Option Int :=
  match name with
  | "||" => some (truth (a != 0 || b != 0))
  | "&&" => some (truth (a != 0 && b != 0))
  | "==" => some (truth (a == b))
  | "!=" => some (truth (a != b))
  | "<" => some (truth (a < b))
  | ">" => some (truth (a > b))
  | "<=" => some (truth (a ≤ b))
  | ">=" => some (truth (a ≥ b))
  | "+" => some (wrapped (a + b))
  | "-" => some (wrapped (a - b))
  | "*" => some (wrapped (a * b))
  | "/" => if b == 0 then none else some (wrapped (a.tdiv b))
  | "%" => if b == 0 then none else some (a.tmod b)
  | "**" => if b < 0 then none else some (power 64 a b.toNat 1)
  | _ => none

mutual

/-- Reads an expression whose operators have at least the rank of the first list. -/
def ranked : Nat → List (List String) → List Symbol → Option (Int × List Symbol)
  | 0, _, _ => none
  | fuel + 1, [], input => single fuel input
  | fuel + 1, names :: tighter, input => do
    let (first, input) ← ranked fuel tighter input
    chained fuel names tighter first input

def chained : Nat → List String → List (List String) → Int → List Symbol →
    Option (Int × List Symbol)
  | 0, _, _, _, _ => none
  | fuel + 1, names, tighter, first, input =>
    match input with
    | .operator name :: rest =>
      if name ∈ names then do
        let (second, rest) ← ranked fuel tighter rest
        chained fuel names tighter (← apply name first second) rest
      else some (first, input)
    | input => some (first, input)

def single : Nat → List Symbol → Option (Int × List Symbol)
  | 0, _ => none
  | fuel + 1, input =>
    match input with
    | .number value :: rest => some (value, rest)
    | .operator "-" :: rest => (single fuel rest).map fun (value, rest) ↦ (-value, rest)
    | .operator "+" :: rest => single fuel rest
    | .operator "!" :: rest => (single fuel rest).map fun (value, rest) ↦ (truth (value == 0), rest)
    | .operator "(" :: rest =>
      match ranked fuel ranks rest with
      | some (value, .operator ")" :: rest) => some (value, rest)
      | _ => none
    | _ => none

end

/-- The value of an expression without assignments; an empty one is zero. -/
def value? (values : SortedMap String) (text : String) : Option Int :=
  match symbols values (text.length + 1) text.toList with
  | some [] => some 0
  | some input =>
    match ranked (16 * input.length + 16) ranks input with
    | some (value, []) => some value
    | _ => none
  | none => none

/-- The variable that an expression assigns to, and the expression for its value. -/
def assignment? (text : String) : Option (String × String) :=
  let chars := text.toList.dropWhile (· == ' ')
  let name := chars.takeWhile isNameChar
  let rest := (chars.drop name.length).dropWhile (· == ' ')
  let subject := String.ofList name
  if name.isEmpty || (name.head?.any Char.isDigit) then none
  else match rest with
    | ['+', '+'] => some (subject, subject ++ "+1")
    | ['-', '-'] => some (subject, subject ++ "-1")
    | '=' :: '=' :: _ => none
    | '=' :: value => some (subject, String.ofList value)
    | c :: '=' :: value =>
      if c ∈ ['+', '-', '*', '/', '%'] then
        some (subject, subject ++ c.toString ++ "(" ++ String.ofList value ++ ")")
      else none
    | _ => none

/-- The value of an expression and the variables after it. -/
def evaluate (values : SortedMap String) (text : String) :
    Option (Int × SortedMap String) :=
  match assignment? text with
  | some (name, expression) =>
    (value? values expression).map fun value ↦
      let before := (value? values name).getD 0
      (if text.endsWith "++" || text.endsWith "--" then before else value,
        values.insert name (toString value))
  | none => (value? values text).map fun value ↦ (value, values)

end Playbook.Shell.Arithmetic
