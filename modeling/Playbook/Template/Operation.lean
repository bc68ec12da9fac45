import Playbook.Decimal.Division
import Playbook.Template.Expression
import Playbook.Text.Search

/-!
# Operations on values

Integers have 128 bits with a sign; an operation whose result does not fit is a fault. An operation
on an integer and a float is one on floats.
-/

namespace Playbook.Template.Operation

def symbol : Operator → String
  | .add => "+"
  | .subtract => "-"
  | .multiply => "*"
  | .divide => "/"
  | .floorDivide => "//"
  | .remainder => "%"
  | .power => "**"
  | .concat => "~"
  | .equal => "=="
  | .unequal => "!="
  | .less => "<"
  | .lessOrEqual => "<="
  | .greater => ">"
  | .greaterOrEqual => ">="
  | .contains => "in"

def unsupported (operator : Operator) (a b : Value) : Fault :=
  .invalid ("tried to use " ++ symbol operator ++ " operator on unsupported types " ++ a.kind ++
    " and " ++ b.kind)

def incalculable (operator : Operator) (a b : Value) : Fault :=
  .invalid ("unable to calculate " ++ a.text ++ " " ++ symbol operator ++ " " ++ b.text)

/-- The largest magnitude that fits is that of the least integer. -/
def fits (n : Int) : Bool :=
  -(Nat.pow 2 127) ≤ n && n < Nat.pow 2 127

/-- The integer operations, where they are defined. -/
def ofInts (operator : Operator) (m n : Int) : Option Int :=
  match operator with
  | .add => some (m + n)
  | .subtract => some (m - n)
  | .multiply => some (m * n)
  | .floorDivide => if n == 0 then none else some (Int.ediv m n)
  | .remainder => if n == 0 then none else some (Int.emod m n)
  | .power =>
    if n < 0 || n ≥ Nat.pow 2 32 then none
    else if m.natAbs ≤ 1 then some (Int.pow m (if n == 0 then 0 else 2 - n.toNat % 2))
    else if n < 128 then some (Int.pow m n.toNat) else none
  | _ => none

def ofFloats (operator : Operator) (x y : Float) : Float :=
  match operator with
  | .add => x + y
  | .subtract => x - y
  | .multiply => x * y
  | .divide => x / y
  | .floorDivide => Decimal.quotient x y
  | .remainder => Decimal.remainder x y
  | _ => Float.pow x y

def arithmetic (operator : Operator) (a b : Value) : Except Fault Value :=
  match Value.pair? false a b with
  | some (.ints m n) =>
    match (ofInts operator m n).filter fits with
    | some value => .ok (.int value)
    | none => .error (incalculable operator a b)
  | some (.floats x y) => .ok (.float (ofFloats operator x y))
  | none => .error (unsupported operator a b)

def add (a b : Value) : Except Fault Value :=
  match a, b with
  | .list xs, .list ys => .ok (.list (xs ++ ys))
  | .str s, .str t => .ok (.str (s ++ t))
  | a, b => arithmetic .add a b

def repeated {α : Type} (items : List α) (count : Int) : List α :=
  (List.replicate count.toNat items).flatten

def multiply (a b : Value) : Except Fault Value :=
  let times (subject : String) (count : Value) (result : Int → Value) : Except Fault Value :=
    match count.index? with
    | some n =>
      if 0 ≤ n then .ok (result n)
      else .error (.invalid (subject ++ " can only be multiplied with integers"))
    | none => .error (.invalid (subject ++ " can only be multiplied with integers"))
  let texts (text : String) (n : Int) : Value := .str (String.ofList (repeated text.toList n))
  match a, b with
  | .str s, n => times "strings" n (texts s)
  | n, .str s => times "strings" n (texts s)
  | .list xs, n => times "sequences and iterables" n fun n ↦ .list (repeated xs n)
  | n, .list xs => times "sequences and iterables" n fun n ↦ .list (repeated xs n)
  | a, b => arithmetic .multiply a b

/-- Division is one of floats, whatever the operands are. -/
def divide (a b : Value) : Except Fault Value :=
  match a.float?, b.float? with
  | some x, some y => .ok (.float (x / y))
  | _, _ => .error (unsupported .divide a b)

/-- Whether a value is in a container. Nothing is in what is undefined. -/
def contains (container value : Value) : Except Fault Bool :=
  match container with
  | .undefined => .ok false
  | .str text => .ok (Text.occurs value.text.toList text.toList)
  | .list items => .ok (items.any (Value.same value))
  | .map entries => .ok (Value.lookup value entries).isSome
  | .keywords entries => .ok (entries.any fun entry ↦ Value.same value (.str entry.1))
  | .loop .. => .ok false
  | .routine .. => .ok false
  | _ => .error (.invalid "cannot perform a containment check on this value")

def binary (operator : Operator) (a b : Value) : Except Fault Value :=
  match operator with
  | .add => add a b
  | .multiply => multiply a b
  | .divide => divide a b
  | .subtract => arithmetic .subtract a b
  | .floorDivide => arithmetic .floorDivide a b
  | .remainder => arithmetic .remainder a b
  | .power => arithmetic .power a b
  | .concat => .ok (.str (a.text ++ b.text))
  | .equal => .ok (.bool (Value.same a b))
  | .unequal => .ok (.bool (!Value.same a b))
  | .less => .ok (.bool (Value.compare a b == .lt))
  | .lessOrEqual => .ok (.bool (Value.compare a b != .gt))
  | .greater => .ok (.bool (Value.compare a b == .gt))
  | .greaterOrEqual => .ok (.bool (Value.compare a b != .lt))
  | .contains => (contains b a).map .bool

def negate : Value → Except Fault Value
  | .int n => if fits (-n) then .ok (.int (-n)) else .error (.bare .invalidOperation)
  | .float x => .ok (.float (-x))
  | _ => .error (.bare .invalidOperation)

/-- The bound of a range, which counts from the end if negative, moved into `low` to `high`. -/
def bound (length : Nat) (low high : Int) (position : Int) : Int :=
  max low (min high (if position < 0 then length + position else position))

/-- The items of a range; a negative step walks from the end. -/
def sliceItems {α : Type} (items : List α) (start stop : Option Int) (step : Int) : List α :=
  let length := items.length
  let forward := 0 < step
  let low : Int := if forward then 0 else -1
  let high : Int := if forward then length else length - 1
  let first := (start.map (bound length low high)).getD (if forward then low else high)
  let last := (stop.map (bound length low high)).getD (if forward then high else low)
  let distance := if forward then last - first else first - last
  let count := ((distance + step.natAbs - 1) / step.natAbs).toNat
  (List.range count).filterMap fun i : Nat ↦ items[(first + i * step).toNat]?

/-- The number that a bound of a range stands for; an absent one has none. -/
def limit (value : Value) : Except Fault (Option Int) :=
  if value.isAbsent then .ok none
  else match value.index? with
    | some n => .ok (some n)
    | none => .error (.invalid ("cannot convert " ++ value.kind ++ " to i64"))

def slice (subject start stop step : Value) : Except Fault Value := do
  let start ← limit start
  let stop ← limit stop
  let step := (← limit step).getD 1
  if step == 0 then .error (.invalid "cannot slice by step size of 0")
  else match subject with
    | .undefined => .ok (.list [])
    | .none => .ok (.list [])
    | .str text => .ok (.str (String.ofList (sliceItems text.toList start stop step)))
    | .list items => .ok (.list (sliceItems items start stop step))
    | value => .error (.invalid ("value of type " ++ value.kind ++ " cannot be sliced"))

end Playbook.Template.Operation
