import Playbook.Facts

/-!
# Elements

One element of a playbook is a task or a block of further elements, with guards, a loop, variables
and a name of its own. Other elements are named by their slots in the tree that holds them all.
-/

namespace Playbook

/-- The place of an element in its tree. -/
abbrev Slot := Nat

/-- Variables for the processes that a task starts. -/
abbrev Environment := SortedMap String

/-- The fields of a task's configuration, in key order. -/
abbrev Config := List (String × Json)

/-- Where the items of a loop come from. -/
inductive LoopSpec where
  /-- A template that renders a JSON array. -/
  | var (template : String)
  | items (values : List Json)

namespace LoopSpec

inductive Fault where
  | both
  | neither
  deriving DecidableEq, Repr

def Fault.message : Fault → String
  | .both => "Loop var and items are both set"
  | .neither => "Either var or items must be set"

/-- Exactly one of the two must be given; an empty list counts as not given. -/
def ofParts (var : Option String) (items : Option (List Json)) : Except Fault LoopSpec :=
  match var, items.filter (!·.isEmpty) with
  | some template, none => .ok (.var template)
  | none, some values => .ok (.items values)
  | some _, some _ => .error .both
  | none, none => .error .neither

end LoopSpec

/-- The kind of a task and its configuration. -/
structure Invocation where
  kind : String
  config : Config

structure Element where
  name : Option String
  block : List Slot
  /-- Templates that guard the element; it is skipped when one renders `false`. -/
  guards : List String
  register : Option String
  environment : Environment
  ignoreErrors : Bool
  loop : Option LoopSpec
  task : Option Invocation
  parent : Option Slot

namespace Element

/-- An element with nothing in it, inside the given block. -/
def bare (parent : Option Slot) : Element :=
  ⟨none, [], [], none, ∅, false, none, none, parent⟩

instance : Inhabited Element := ⟨bare none⟩

def isBlock (element : Element) : Bool :=
  !element.block.isEmpty

/-- The name in messages: its own, or that of its task. -/
def displayName (element : Element) : String :=
  match element.name, element.task with
  | some name, _ => name
  | none, some task => task.kind
  | none, none => "block"

inductive Fault where
  | blockWithRegister
  | blockWithTask
  | noContent
  deriving DecidableEq, Repr

def Fault.message : Fault → String
  | .blockWithRegister => "Block cannot have register"
  | .blockWithTask => "Block cannot have task"
  | .noContent => "Element must have either a block or a task"

def validate (element : Element) : Except Fault Unit :=
  if element.isBlock then
    if element.register.isSome then .error .blockWithRegister
    else if element.task.isSome then .error .blockWithTask
    else .ok ()
  else if element.task.isNone then .error .noContent
  else .ok ()

end Element

end Playbook
