import Playbook.Template.Filter.Basic
import Playbook.Template.Memory
import Playbook.Template.Operation

/-!
# Evaluating expressions

Evaluation follows the structure of an expression. Only the call of a definition leaves it; how to
do that is a parameter, so that this is total by structure.
-/

namespace Playbook.Template

/-- How a definition, given by its number, is called. -/
abbrev Caller := Nat → List Value → List (String × Value) → Evaluation Value

namespace Evaluation

/-- The arguments of a call as filters and tests take them. -/
def asList (positional : List Value) (named : List (String × Value)) : List Value :=
  if named.isEmpty then positional else positional ++ [.keywords named]

/-- The integers of a range. -/
def rangeItems (start stop step : Int) : List Value :=
  (List.range ((stop - start + step - 1) / step).toNat).map fun i : Nat ↦
    Value.int (start + i * step)

def rangeLimit : Int := 100000

def range (arguments : List Value) : Except Fault Value := do
  let number (value : Value) : Except Fault Int :=
    match value.index? with
    | some n => .ok n
    | none => .error (.invalid ("cannot convert " ++ value.kind ++ " to u32"))
  let first ← number (← Argument.required 0 arguments)
  let (start, stop) ← match Argument.optional 1 arguments with
    | some second => do pure (first, ← number second)
    | none => pure (0, first)
  let step ← match Argument.optional 2 arguments with
    | some third => number third
    | none => pure 1
  if step ≤ 0 then .error (.invalid "cannot create range with step of 0")
  else if (stop - start) / step > rangeLimit then .error (.invalid "range has too many elements")
  else Argument.upTo 3 arguments (.ok (.list (rangeItems start stop step)))

def entriesOf (value : Option Value) (named : List (String × Value)) :
    List (Value × Value) :=
  let start := match value with
    | some (.map entries) => entries
    | _ => []
  named.foldl (fun entries (name, value) ↦ Value.insertEntry (.str name) value entries) start

/-- The functions that every template has. -/
def function? (name : String) (positional : List Value) (named : List (String × Value)) :
    Option (Evaluation Value) :=
  match name with
  | "range" => some (lift 0 (range (asList positional named)))
  | "dict" => some (return .map (entriesOf (Argument.optional 0 positional) named))
  | "namespace" =>
    some (share ((entriesOf (Argument.optional 0 positional) named).map fun entry ↦
      (entry.1.text, entry.2)))
  | "debug" => some (return .str "")
  | _ => none

def callValue (caller : Caller) (value : Value) (positional : List Value)
    (named : List (String × Value)) : Evaluation Value :=
  match value with
  | .routine id _ => caller id positional named
  | .loop .. => fail (.invalid "cannot recurse outside of recursive loop")
  | .list _ => fail (.invalid "tried to call non callable object")
  | .map _ => fail (.invalid "tried to call non callable object")
  | .keywords _ => fail (.invalid "tried to call non callable object")
  | .namespace _ => fail (.invalid "tried to call non callable object")
  | value => fail (.invalid ("value of type " ++ value.kind ++ " is not callable"))

def callFunction (facts : Facts) (caller : Caller) (name : String) (positional : List Value)
    (named : List (String × Value)) : Evaluation Value := do
  match ← valueOf? facts name with
  | some value => callValue caller value positional named
  | none =>
    match function? name positional named with
    | some result => result
    | none => fail ⟨.unknownFunction, some (name ++ " is unknown"), 0⟩

def callMethod (caller : Caller) (value : Value) (name : String) (positional : List Value)
    (named : List (String × Value)) : Evaluation Value := do
  let unknown := fail ⟨.unknownMethod,
    some (value.kind ++ " has no method named " ++ name), 0⟩
  match value with
  | .loop index .. =>
    if name == "cycle" then
      return (positional[index % positional.length]?).getD .undefined
    else unknown
  | value =>
    if Check.isMap value then
      match ← field? value (.str name) with
      | some found => callValue caller found positional named
      | none => unknown
    else unknown

/-- Gives the line of a call to a fault that has none. -/
def onLine {α : Type} (line : Nat) (action : Evaluation α) : Evaluation α := fun memory ↦
  (action memory).mapError (Fault.onLine line)

def applyFilter (line : Nat) (name : String) (subject : Value) (arguments : List Value) :
    Evaluation Value :=
  match Filter.call? name subject arguments with
  | some result => lift line result
  | none => fail ⟨.unknownFilter, some ("filter " ++ name ++ " is unknown"), line⟩

def applyTest (line : Nat) (name : String) (subject : Value) (arguments : List Value) :
    Evaluation Value :=
  match Check.call? name subject arguments with
  | some result => lift line (result.map .bool)
  | none => fail ⟨.unknownTest, some ("test " ++ name ++ " is unknown"), line⟩

mutual

def evaluate (facts : Facts) (caller : Caller) : Expr → Evaluation Value
  | .literal value => return value
  | .var name => return (← valueOf? facts name).getD .undefined
  | .list items => return .list (← evaluateAll facts caller items)
  | .map entries => return .ofEntries (← evaluateEntries facts caller entries)
  | .not operand => return .bool (!(← evaluate facts caller operand).isTrue)
  | .negate line operand => do lift line (Operation.negate (← evaluate facts caller operand))
  | .binary operator left right => do
    let a ← evaluate facts caller left
    let b ← evaluate facts caller right
    lift 0 (Operation.binary operator a b)
  | .and left right => do
    let a ← evaluate facts caller left
    if a.isTrue then evaluate facts caller right else return a
  | .or left right => do
    let a ← evaluate facts caller left
    if a.isTrue then return a else evaluate facts caller right
  | .choice condition yes no => do
    if (← evaluate facts caller condition).isTrue then evaluate facts caller yes
    else return (← evaluateOption facts caller no).getD .undefined
  | .attribute line subject name => do field line (← evaluate facts caller subject) (.str name)
  | .item line subject index => do
    let value ← evaluate facts caller subject
    field line value (← evaluate facts caller index)
  | .slice line subject start stop step => do
    let value ← evaluate facts caller subject
    let start ← evaluateOption facts caller start
    let stop ← evaluateOption facts caller stop
    let step ← evaluateOption facts caller step
    lift line
      (Operation.slice value (start.getD .none) (stop.getD .none) (step.getD .none))
  | .filter subject (.mk line name arguments) => do
    let value ← evaluate facts caller subject
    let (positional, named) ← evaluateArguments facts caller arguments
    applyFilter line name value (asList positional named)
  | .test subject (.mk line name arguments) => do
    let value ← evaluate facts caller subject
    let (positional, named) ← evaluateArguments facts caller arguments
    applyTest line name value (asList positional named)
  | .apply (.var name) (.mk line _ arguments) => do
    let (positional, named) ← evaluateArguments facts caller arguments
    onLine line (callFunction facts caller name positional named)
  | .apply (.attribute _ subject name) (.mk line _ arguments) => do
    let value ← evaluate facts caller subject
    let (positional, named) ← evaluateArguments facts caller arguments
    onLine line (callMethod caller value name positional named)
  | .apply function (.mk line _ arguments) => do
    let value ← evaluate facts caller function
    let (positional, named) ← evaluateArguments facts caller arguments
    onLine line (callValue caller value positional named)

def evaluateOption (facts : Facts) (caller : Caller) : Option Expr → Evaluation (Option Value)
  | none => return none
  | some expr => return some (← evaluate facts caller expr)

def evaluateAll (facts : Facts) (caller : Caller) : List Expr → Evaluation (List Value)
  | [] => return []
  | item :: rest => do
    let value ← evaluate facts caller item
    return value :: (← evaluateAll facts caller rest)

def evaluateEntries (facts : Facts) (caller : Caller) :
    List (Expr × Expr) → Evaluation (List (Value × Value))
  | [] => return []
  | (key, value) :: rest => do
    let key ← evaluate facts caller key
    let value ← evaluate facts caller value
    return (key, value) :: (← evaluateEntries facts caller rest)

/-- The positional and the named arguments of a call. -/
def evaluateArguments (facts : Facts) (caller : Caller) :
    List Argument → Evaluation (List Value × List (String × Value))
  | [] => return ([], [])
  | .positional expr :: rest => do
    let value ← evaluate facts caller expr
    let (positional, named) ← evaluateArguments facts caller rest
    return (value :: positional, named)
  | .keyword name expr :: rest => do
    let value ← evaluate facts caller expr
    let (positional, named) ← evaluateArguments facts caller rest
    return (positional, Entries.insert name value named)
  | .spread expr :: rest => do
    let value ← evaluate facts caller expr
    let (positional, named) ← evaluateArguments facts caller rest
    return (value.items?.getD [] ++ positional, named)
  | .spreadKeywords expr :: rest => do
    let value ← evaluate facts caller expr
    let (positional, named) ← evaluateArguments facts caller rest
    match value with
    | .map entries =>
      return (positional, entries.foldl (fun named (key, value) ↦
        Entries.insert key.text value named) named)
    | _ => return (positional, named)

end

end Evaluation

end Playbook.Template
