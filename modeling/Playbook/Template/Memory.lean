import Playbook.Facts
import Playbook.Template.Expression

/-!
# The memory of a template

While a template is rendered it has an output so far, variables in scopes, and what it has defined.
A fault ends the rendering, and then none of this matters.
-/

namespace Playbook.Template

/-- Variables with their values, the newest first. -/
abbrev Variables := List (String × Value)

/-- A definition of something that can be called, and the scopes it was made in. -/
structure Routine where
  name : String
  parameters : List Parameter
  body : List Piece
  scopes : List Variables

structure Memory where
  output : String := ""
  /-- Scopes from the inside out. -/
  scopes : List Variables := [[]]
  /-- The variables that assignments may change from any scope, by number. -/
  shared : List Variables := []
  /-- The definitions, by number. -/
  routines : List Routine := []

abbrev Evaluation := StateT Memory (Except Fault)

namespace Evaluation

def fail {α : Type} (fault : Fault) : Evaluation α :=
  throw fault

/-- Takes a result over; a fault without a line gets the one given here. -/
def lift {α : Type} (line : Nat) (result : Except Fault α) : Evaluation α :=
  match result with
  | .ok value => pure value
  | .error fault => throw (fault.onLine line)

def write (text : String) : Evaluation Unit :=
  modify fun memory ↦ { memory with output := memory.output ++ text }

/-- Gives a variable of the innermost scope a value. -/
def assign (name : String) (value : Value) : Evaluation Unit :=
  modify fun memory ↦
    match memory.scopes with
    | [] => { memory with scopes := [[(name, value)]] }
    | scope :: outer => { memory with scopes := ((name, value) :: scope) :: outer }

def valueOf? (facts : Facts) (name : String) : Evaluation (Option Value) := do
  let memory ← get
  match memory.scopes.findSome? (Entries.lookup name) with
  | some value => return some value
  | none => return (facts.get? name).map Value.ofJson

/-- Runs an action in a scope of its own. -/
def inScope {α : Type} (scope : Variables) (action : Evaluation α) : Evaluation α := do
  modify fun memory ↦ { memory with scopes := scope :: memory.scopes }
  let result ← action
  modify fun memory ↦ { memory with scopes := memory.scopes.drop 1 }
  return result

/-- Runs an action and takes what it writes as a text. -/
def captured (action : Evaluation Unit) : Evaluation String := do
  let before := (← get).output
  modify fun memory ↦ { memory with output := "" }
  action
  let text := (← get).output
  modify fun memory ↦ { memory with output := before }
  return text

/-- Runs an action in the scopes of a definition instead of the present ones. -/
def elsewhere {α : Type} (scopes : List Variables) (action : Evaluation α) : Evaluation α := do
  let here := (← get).scopes
  modify fun memory ↦ { memory with scopes }
  let result ← action
  modify fun memory ↦ { memory with scopes := here }
  return result

/-- Keeps variables that can be changed from any scope. -/
def share (scope : Variables) : Evaluation Value := do
  let memory ← get
  set { memory with shared := memory.shared ++ [scope] }
  return .namespace memory.shared.length

def shareField (id : Nat) (name : String) (value : Value) : Evaluation Unit :=
  modify fun memory ↦
    { memory with shared := memory.shared.modify id (Entries.insert name value) }

/-- Keeps a definition, made in the present scopes. -/
def define (name : String) (parameters : List Parameter) (body : List Piece) :
    Evaluation Value := do
  let memory ← get
  let routine := Value.routine memory.routines.length name
  let defined : Routine := ⟨name, parameters, body, [(name, routine)] :: memory.scopes⟩
  set { memory with routines := memory.routines ++ [defined] }
  return routine

/-- What stands under a key in a value. -/
def field? (value key : Value) : Evaluation (Option Value) := do
  match value, key with
  | .namespace id, .str name =>
    return ((← get).shared[id]?).bind (Entries.lookup name)
  | .namespace _, _ => return none
  | value, key => return value.get? key

/-- What stands under a key, or nothing; but nothing stands in what is undefined. -/
def field (line : Nat) (value key : Value) : Evaluation Value := do
  match ← field? value key, value with
  | some found, _ => return found
  | none, .undefined => fail ⟨.undefinedValue, none, line⟩
  | none, _ => return .undefined

end Evaluation

end Playbook.Template
