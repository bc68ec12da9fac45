import Playbook.Error
import Playbook.Tree

/-!
# Resolution

Resolving a value replaces every string in it by what the resolver makes of it; keys, numbers and
structure stay. One resolution may resolve several values. It remembers which slots and shared
parts it met, so that none is resolved twice, and it records what it asked the resolver, also when
it fails.
-/

namespace Playbook

/-- What strings are resolved with. -/
structure Scope where
  resolver : Resolver
  facts : Facts

/-- The state of a resolution; the calls of the resolver stand last first. -/
structure Resolution where
  slots : List Slot
  shared : List Nat
  calls : List String

namespace Resolution

/-- A resolution that has met nothing yet, after earlier calls. -/
def start (calls : List String) : Resolution := ⟨[], [], calls⟩

end Resolution

abbrev Resolving := ExceptT ResolveError (StateM Resolution)

namespace Resolving

def call (text : String) (r : Resolution) : Resolution :=
  { r with calls := text :: r.calls }

/-- Asks the resolver for a string. -/
def text (scope : Scope) (text : String) : Resolving String := do
  modify (call text)
  match scope.resolver text scope.facts with
  | .ok resolved => return resolved
  | .error error => throw error

/-- Meets a slot; the answer tells whether it is new. -/
def enterSlot (slot : Slot) : Resolving Bool := do
  let r ← get
  if slot ∈ r.slots then return false
  else
    set { r with slots := slot :: r.slots }
    return true

/-- Meets a shared part; the answer tells whether it is new. -/
def enterShared (part : Nat) : Resolving Bool := do
  let r ← get
  if part ∈ r.shared then return false
  else
    set { r with shared := part :: r.shared }
    return true

def optional {α : Type} (resolve : α → Resolving α) : Option α → Resolving (Option α)
  | none => return none
  | some value => return some (← resolve value)

/-- Resolves values in order. -/
def list {α : Type} (resolve : α → Resolving α) : List α → Resolving (List α)
  | [] => return []
  | value :: rest => do
    let value ← resolve value
    return value :: (← list resolve rest)

/-- Resolves the values of entries in order and keeps their keys. -/
def entries {α : Type} (resolve : α → Resolving α) :
    List (String × α) → Resolving (List (String × α))
  | [] => return []
  | (key, value) :: rest => do
    let value ← resolve value
    return (key, value) :: (← entries resolve rest)

end Resolving

mutual

def Json.resolve (scope : Scope) : Json → Resolving Json
  | .str text => return .str (← Resolving.text scope text)
  | .arr items => return .arr (← Json.resolveItems scope items)
  | .obj fields => return .obj (← Json.resolveFields scope fields)
  | other => return other

def Json.resolveItems (scope : Scope) : List Json → Resolving (List Json)
  | [] => return []
  | item :: rest => do
    let item ← item.resolve scope
    return item :: (← Json.resolveItems scope rest)

def Json.resolveFields (scope : Scope) : List (String × Json) → Resolving (List (String × Json))
  | [] => return []
  | (key, value) :: rest => do
    let value ← value.resolve scope
    return (key, value) :: (← Json.resolveFields scope rest)

end

def LoopSpec.resolve (scope : Scope) : LoopSpec → Resolving LoopSpec
  | .var template => return .var (← Resolving.text scope template)
  | .items values => return .items (← Json.resolveItems scope values)

def Invocation.resolve (scope : Scope) (task : Invocation) : Resolving Invocation := do
  return { task with config := ← Json.resolveFields scope task.config }

def Environment.resolve (scope : Scope) (environment : Environment) : Resolving Environment := do
  return .ofList (← Resolving.entries (Resolving.text scope) environment.entries)

/-- Resolves the name, the guards, the registered name, the variables, the loop and the
configuration of an element, in this order. -/
def Element.resolve (scope : Scope) (element : Element) : Resolving Element := do
  let name ← Resolving.optional (Resolving.text scope) element.name
  let guards ← Resolving.list (Resolving.text scope) element.guards
  let register ← Resolving.optional (Resolving.text scope) element.register
  let environment ← element.environment.resolve scope
  let loop ← Resolving.optional (LoopSpec.resolve scope) element.loop
  let task ← Resolving.optional (Invocation.resolve scope) element.task
  return { element with name, guards, register, environment, loop, task }

namespace Tree

/-- Walks from a slot upwards to the first slot that was met before or is not in the tree; gives
the elements on the way, the nearest first. At most as many slots as the tree has can be new. -/
def ancestors (tree : Tree) : (steps : Nat) → Option Slot → Resolving (List Element)
  | _, none => return []
  | 0, some _ => return []
  | steps + 1, some slot => do
    if ← Resolving.enterSlot slot then
      match tree.get? slot with
      | none => return []
      | some element => return element :: (← tree.ancestors steps element.parent)
    else return []

/-- Resolves the variables of elements and puts them over each other in order. -/
def overlay (scope : Scope) (environment : Environment) :
    List Element → Resolving Environment
  | [] => return environment
  | element :: rest => do
    let own ← Resolving.entries (Resolving.text scope) element.environment.entries
    overlay scope (environment.insertMany own) rest

/-- The variables of an element with those of the blocks around it, the nearest winning. `own` are
its own variables, which are resolved already. -/
def resolveEnvironment (tree : Tree) (scope : Scope) (slot : Slot) (own : Environment) :
    Resolving Environment := do
  let above ←
    if ← Resolving.enterSlot slot then
      tree.ancestors (tree.size + 1) ((tree.get? slot).bind (·.parent))
    else pure []
  let inherited ← overlay scope ∅ above.reverse
  return inherited.insertMany own.entries

end Tree

end Playbook
