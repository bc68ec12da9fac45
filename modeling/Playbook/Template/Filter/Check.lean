import Playbook.Template.Filter.Argument
import Playbook.Template.Operation
import Playbook.Text.CaseMap

/-!
# Tests of values

What may stand behind `is` in an expression.
-/

namespace Playbook.Template.Check

def isNumber : Value → Bool
  | .int _ => true
  | .float _ => true
  | _ => false

def isMap : Value → Bool
  | .map _ => true
  | .keywords _ => true
  | .namespace _ => true
  | _ => false

def isString : Value → Bool
  | .str _ => true
  | _ => false

def isList : Value → Bool
  | .list _ => true
  | _ => false

/-- The integer that a boolean or a number without fraction is. -/
def integer? : Value → Option Int
  | .bool value => some (if value then 1 else 0)
  | value => value.index?

def divides (a b : Value) : Bool :=
  match Value.pair? false a b with
  | some (.ints m n) => n != 0 && m % n == 0
  | some (.floats x y) => Decimal.remainder x y == 0.0
  | none => false

def isLowerChar (c : Char) : Bool :=
  Text.isCased c && Text.lowerChar c == [c]

def isUpperChar (c : Char) : Bool :=
  Text.isCased c && Text.upperChar c == [c]

def allChars (p : Char → Bool) : Value → Bool
  | .str text => text.toList.all p
  | _ => false

/-- Two values are the same if they are of one kind and equal. -/
def isSame (a b : Value) : Bool :=
  a.kind == b.kind && Value.same a b

/-- The tests that call no other test, by name. -/
def plain? (name : String) (value : Value) (arguments : List Value) :
    Option (Except Fault Bool) :=
  let alone (result : Bool) := some (Argument.upTo 0 arguments (.ok result))
  let against (f : Value → Except Fault Bool) := some do
    let other ← Argument.required 0 arguments
    Argument.upTo 1 arguments (f other)
  let comparing (p : Ordering → Bool) := against fun other ↦ .ok (p (Value.compare value other))
  match name with
  | "undefined" => alone (value.rank == 0)
  | "defined" => alone (value.rank != 0)
  | "none" => alone (value.rank == 1)
  | "safe" => alone false
  | "escaped" => alone false
  | "boolean" => alone (value.rank == 2)
  | "true" => alone (value.rank == 2 && value.isTrue)
  | "false" => alone (value.rank == 2 && !value.isTrue)
  | "number" => alone (isNumber value)
  | "integer" => alone (isNumber value && match value with | .float _ => false | _ => true)
  | "int" => alone (isNumber value && match value with | .float _ => false | _ => true)
  | "float" => alone (match value with | .float _ => true | _ => false)
  | "string" => alone (isString value)
  | "sequence" => alone (isList value)
  | "iterable" => alone value.items?.isSome
  | "mapping" => alone (isMap value)
  | "odd" => alone ((integer? value).any fun n ↦ n % 2 != 0)
  | "even" => alone ((integer? value).any fun n ↦ n % 2 == 0)
  | "divisibleby" => against fun other ↦ .ok (divides value other)
  | "startingwith" =>
    against fun other ↦ .ok (other.text.toList.isPrefixOf value.text.toList)
  | "endingwith" =>
    against fun other ↦ .ok (other.text.toList.isSuffixOf value.text.toList)
  | "lower" => alone (allChars isLowerChar value)
  | "upper" => alone (allChars isUpperChar value)
  | "sameas" => against fun other ↦ .ok (isSame value other)
  | "eq" => against fun other ↦ .ok (Value.same value other)
  | "equalto" => against fun other ↦ .ok (Value.same value other)
  | "==" => against fun other ↦ .ok (Value.same value other)
  | "ne" => against fun other ↦ .ok (!Value.same value other)
  | "!=" => against fun other ↦ .ok (!Value.same value other)
  | "lt" => comparing (· == .lt)
  | "lessthan" => comparing (· == .lt)
  | "<" => comparing (· == .lt)
  | "le" => comparing (· != .gt)
  | "<=" => comparing (· != .gt)
  | "gt" => comparing (· == .gt)
  | "greaterthan" => comparing (· == .gt)
  | ">" => comparing (· == .gt)
  | "ge" => comparing (· != .lt)
  | ">=" => comparing (· != .lt)
  | "in" => against fun other ↦ Operation.contains other value
  | _ => none

/-- The tests of the names of filters and tests. -/
def naming : List String := ["filter", "test"]

end Playbook.Template.Check
