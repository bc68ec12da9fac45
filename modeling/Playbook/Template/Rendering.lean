import Playbook.Template.Evaluation
import Playbook.Template.Reading

/-!
# Rendering templates

Rendering follows the structure of the pieces. The call of a definition renders its body with one
level of calls less left.
-/

namespace Playbook.Template

namespace Rendering

open Evaluation

def items (value : Value) : Except Fault (List Value) :=
  match value.items? with
  | some found => .ok found
  | none => .error (.invalid (value.kind ++ " is not iterable"))

mutual

/-- Gives what is assigned to a value. -/
def assignTo : Assignee → Value → Evaluation Unit
  | .name name, value => assign name value
  | .field subject name, value => do
    match (← get).scopes.findSome? (Entries.lookup subject) with
    | some (.namespace id) => shareField id name value
    | _ => fail (.invalid "can only assign to namespaces")
  | .tuple parts, value => do
    match value with
    | .list found =>
      if found.length == parts.length then assignEach parts found
      else
        let counts := s!"(expected {parts.length}, got {found.length})"
        fail ⟨.cannotUnpack, some ("sequence of wrong length " ++ counts), 0⟩
    | _ => fail ⟨.cannotUnpack, some "value is not iterable", 0⟩

def assignEach : List Assignee → List Value → Evaluation Unit
  | part :: parts, value :: values => do
    assignTo part value
    assignEach parts values
  | _, _ => return ()

end

/-- Applies filters one after the other. -/
def applyAll (facts : Facts) (caller : Caller) (text : Value) : List Call → Evaluation Value
  | [] => return text
  | .mk line name arguments :: rest => do
    let (positional, named) ← evaluateArguments facts caller arguments
    let value ← applyFilter line name text (asList positional named)
    applyAll facts caller value rest

/-- The items that meet the condition of a loop. -/
def chosen (facts : Facts) (caller : Caller) (assignee : Assignee) (condition : Option Expr) :
    List Value → Evaluation (List Value)
  | [] => return []
  | item :: rest => do
    let keep ← match condition with
      | none => pure true
      | some condition => do
        assignTo assignee item
        pure (← evaluate facts caller condition).isTrue
    let more ← chosen facts caller assignee condition rest
    return if keep then item :: more else more

/-- Runs the body of a loop for every item from a position on. -/
def eachItem (assignee : Assignee) (length : Nat) (body : Evaluation Unit) (index : Nat)
    (previous : Value) : List Value → Evaluation Unit
  | [] => return ()
  | item :: rest => do
    assign "loop" (.loop index length 0 previous (rest.head?.getD .undefined))
    assignTo assignee item
    body
    eachItem assignee length body (index + 1) item rest

/-- The fault of a reference to another template. -/
def missing (inclusive : Bool) (name : Value) : Fault :=
  let detail := if inclusive then "tried to include non-existing template " ++ name.inner
    else "template " ++ name.inner ++ " does not exist"
  ⟨.templateNotFound, some detail, 0⟩

mutual

def renderPiece (facts : Facts) (caller : Caller) : Piece → Evaluation Unit
  | .text content => write content
  | .print expr => do write (← evaluate facts caller expr).text
  | .branch condition yes no => do
    if (← evaluate facts caller condition).isTrue then renderAll facts caller yes
    else renderAll facts caller no
  | .each assignee source condition body otherwise => do
    let found ← lift 0 (items (← evaluate facts caller source))
    let found ← inScope [] (chosen facts caller assignee condition found)
    if found.isEmpty then renderAll facts caller otherwise
    else
      inScope []
        (eachItem assignee found.length (renderAll facts caller body) 0 .undefined found)
  | .set assignee expr => do assignTo assignee (← evaluate facts caller expr)
  | .setText assignee filters body => do
    let text ← captured (renderAll facts caller body)
    assignTo assignee (← applyAll facts caller (.str text) filters)
  | .within assignments body => inScope [] do
    for (assignee, expr) in assignments do
      assignTo assignee (← evaluate facts caller expr)
    renderAll facts caller body
  | .filtered filters body => do
    let text ← captured (renderAll facts caller body)
    write (← applyAll facts caller (.str text) filters).text
  | .define name parameters body => do assign name (← define name parameters body)
  | .callWith function (.mk line name arguments) parameters body => do
    let body ← define "caller" parameters body
    let call := Call.mk line name (arguments ++ [.keyword "caller" (.literal body)])
    write (← evaluate facts caller (.apply function call)).text
  | .group body => inScope [] (renderAll facts caller body)
  | .evaluate expr => do
    let _ ← evaluate facts caller expr
  | .reference line inclusive optional expr => do
    let name ← evaluate facts caller expr
    if optional then return () else fail ((missing inclusive name).onLine line)

def renderAll (facts : Facts) (caller : Caller) : List Piece → Evaluation Unit
  | [] => return ()
  | piece :: rest => do
    renderPiece facts caller piece
    renderAll facts caller rest

end

/-- Gives the parameters of a definition their values, in the scope of the call. -/
def bindParameters (facts : Facts) (caller : Caller) (named : List (String × Value)) :
    List Parameter → List Value → Evaluation Unit
  | [], _ => return ()
  | parameter :: rest, value :: values => do
    assign parameter.name value
    bindParameters facts caller named rest values
  | parameter :: rest, [] => do
    match Entries.lookup parameter.name named with
    | some value => assign parameter.name value
    | none => do
      let value ← evaluateOption facts caller parameter.fallback
      assign parameter.name (value.getD .undefined)
    bindParameters facts caller named rest []

/-- What is wrong with the arguments of a call of a definition. -/
def misfit? (routine : Routine) (positional : List Value) (named : List (String × Value)) :
    Option Fault :=
  let names := routine.parameters.map Parameter.name
  if names.length < positional.length then some (.bare .tooManyArguments)
  else match named.find? fun entry ↦ entry.1 ∉ names && entry.1 != "caller" with
    | some entry =>
      some ⟨.tooManyArguments, some ("unknown keyword argument '" ++ entry.1 ++ "'"), 0⟩
    | none =>
      match named.find? fun entry ↦ entry.1 ∈ names.take positional.length with
      | some entry =>
        some ⟨.tooManyArguments, some ("duplicate argument '" ++ entry.1 ++ "'"), 0⟩
      | none => none

/-- The levels of calls of definitions that are left. -/
def invoke (facts : Facts) : (levels : Nat) → Caller
  | 0, _, _, _ => fail (.invalid "recursion limit exceeded")
  | levels + 1, id, positional, named => do
    match (← get).routines[id]? with
    | none => return .undefined
    | some routine =>
      match misfit? routine positional named with
      | some fault => fail fault
      | none =>
        let handed := (Entries.lookup "caller" named).map fun body ↦ ("caller", body)
        let text ← captured <| elsewhere (handed.toList :: routine.scopes) do
          bindParameters facts (invoke facts levels) named routine.parameters positional
          renderAll facts (invoke facts levels) routine.body
        return .str text

/-- How deep calls of definitions may nest. -/
def callLimit : Nat := 100

/-- What the pieces of a template write. -/
def output (pieces : List Piece) (facts : Facts) : Except Fault String :=
  (renderAll facts (invoke facts callLimit) pieces {}).map fun (_, memory) ↦ memory.output

end Rendering

/-- The text that a template makes of facts. -/
def render (text : String) (facts : Facts) : Except Fault String := do
  Rendering.output (← parse text) facts

end Playbook.Template
