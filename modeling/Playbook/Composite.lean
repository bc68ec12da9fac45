import Playbook.Resolution

/-!
# Composite values

Values with strings in them, built from all the shapes that resolution passes through. A part may
be shared between several places: within one resolution it is resolved where it is met first, and
every other place keeps what it had.
-/

namespace Playbook

/-- A value that holds no text to resolve. -/
inductive Scalar where
  | unit
  | bool (value : Bool)
  | char (value : Char)
  /-- An integer or a float of the named width. -/
  | number (width : String) (value : Json)

inductive Composite where
  | text (template : String)
  | scalar (value : Scalar)
  | absent
  | present (content : Composite)
  | boxed (content : Composite)
  | seq (items : List Composite)
  /-- Entries that are walked in key order. -/
  | sorted (entries : List (String × Composite))
  /-- Entries that are walked in any order. -/
  | unordered (entries : List (String × Composite))
  | json (value : Json)
  | object (fields : List (String × Json))
  | loop (spec : LoopSpec)
  /-- A task of the given kind; its configuration is a shared part. -/
  | invocation (kind : String) (config : Composite)
  /-- An element apart from its task, and the task, which may be absent. -/
  | element (rest : Element) (task : Composite)
  /-- A shared part; `fresh` marks a resolved copy of it. -/
  | shared (part : Nat) (fresh : Bool) (content : Composite)

namespace Composite

mutual

def resolve (scope : Scope) : Composite → Resolving Composite
  | .text template => return .text (← Resolving.text scope template)
  | .scalar value => return .scalar value
  | .absent => return .absent
  | .present content => return .present (← content.resolve scope)
  | .boxed content => return .boxed (← content.resolve scope)
  | .seq items => return .seq (← resolveItems scope items)
  | .sorted entries => return .sorted (← resolveEntries scope entries)
  | .unordered entries => return .unordered (← resolveEntries scope entries)
  | .json value => return .json (← value.resolve scope)
  | .object fields => return .object (← Json.resolveFields scope fields)
  | .loop spec => return .loop (← spec.resolve scope)
  | .invocation kind config => return .invocation kind (← config.resolve scope)
  | .element rest task => do
    let rest ← { rest with task := none }.resolve scope
    return .element rest (← task.resolve scope)
  | .shared part fresh content => do
    if ← Resolving.enterShared part then return .shared part true (← content.resolve scope)
    else return .shared part fresh content

def resolveItems (scope : Scope) : List Composite → Resolving (List Composite)
  | [] => return []
  | item :: rest => do
    let item ← item.resolve scope
    return item :: (← resolveItems scope rest)

def resolveEntries (scope : Scope) :
    List (String × Composite) → Resolving (List (String × Composite))
  | [] => return []
  | (key, value) :: rest => do
    let value ← value.resolve scope
    return (key, value) :: (← resolveEntries scope rest)

end

/-- Resolves a value in a given state; the state is kept also when it fails. -/
def run (scope : Scope) (value : Composite) (r : Resolution) :
    Except ResolveError Composite × Resolution :=
  (value.resolve scope).run.run r

/-- Resolves values one after another, all in one resolution or each in its own. -/
def runAll (scope : Scope) (together : Bool) (r : Resolution) :
    List Composite → List (Except ResolveError Composite) × Resolution
  | [] => ([], r)
  | value :: rest =>
    let (result, r) := run scope value r
    let (results, r) := runAll scope together (if together then r else .start r.calls) rest
    (result :: results, r)

end Composite

end Playbook
