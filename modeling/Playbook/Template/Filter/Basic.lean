import Playbook.Template.Filter.Check
import Playbook.Template.Filter.Collection
import Playbook.Template.Filter.Scalar

/-!
# Filters and tests by name

Some filters apply another filter or a test to every item. The name of that one is among their
arguments, so that arguments become fewer from one to the next.
-/

namespace Playbook.Template

/-- The filters that apply another filter or a test. -/
def Filter.nesting : List String := ["map", "select", "reject", "selectattr", "rejectattr"]

def Filter.isKnown (name : String) : Bool :=
  name ∈ nesting || (Filter.scalar? name .undefined []).isSome ||
    (Filter.collection? name .undefined []).isSome

def Check.isKnown (name : String) : Bool :=
  name ∈ naming || (plain? name .undefined []).isSome

/-- The test of that name, where there is one. -/
def Check.call? (name : String) (value : Value) (arguments : List Value) :
    Option (Except Fault Bool) :=
  match name with
  | "filter" => some (Argument.upTo 0 arguments (.ok (Filter.isKnown value.text)))
  | "test" => some (Argument.upTo 0 arguments (.ok (Check.isKnown value.text)))
  | name => Check.plain? name value arguments

namespace Filter

/-- Keeps the items whose part `part` passes the test, or those that do not. -/
def choose (keep : Bool) (part : Value → Except Fault Value) (test : List Value)
    (items : List Value) : Except Fault Value := do
  let passes (value : Value) : Except Fault Bool :=
    match test with
    | [] => .ok value.isTrue
    | name :: arguments =>
      (Check.call? name.text value arguments).getD (.error (.bare .unknownTest))
  let kept ← items.filterM fun item ↦ return (← passes (← part item)) == keep
  return .list kept

def select (keep : Bool) (value : Value) (arguments : List Value) : Except Fault Value := do
  choose keep .ok arguments (← Argument.items value)

def selectAttribute (keep : Bool) (value : Value) (arguments : List Value) :
    Except Fault Value := do
  let place ← Argument.required 0 arguments
  choose keep (Argument.path (Text.split "." place.text)) (arguments.drop 1)
    (← Argument.items value)

/-- What stands at a place of an item, or else the fallback. -/
def fieldOr (place fallback item : Value) : Except Fault Value :=
  let found := match place with
    | .str path => Argument.path (Text.split "." path) item
    | place => .ok ((item.get? place).getD .undefined)
  match found, fallback with
  | .ok .undefined, fallback => .ok fallback
  | .ok found, _ => .ok found
  | .error fault, .undefined => .error fault
  | .error _, fallback => .ok fallback

/-- The filter of that name, where there is one. `fuel` bounds the depth of filters that apply
filters; it suffices that it exceeds the number of arguments. -/
def callWithin : (fuel : Nat) → (name : String) → Value → List Value →
    Option (Except Fault Value)
  | 0, _, _, _ => none
  | fuel + 1, name, value, arguments =>
    match name with
    | "select" => some (select true value arguments)
    | "reject" => some (select false value arguments)
    | "selectattr" => some (selectAttribute true value arguments)
    | "rejectattr" => some (selectAttribute false value arguments)
    | "map" => some do
      let items ← Argument.items value
      let (positional, named) := Argument.split arguments
      match Argument.named? "attribute" named, positional with
      | some place, [] =>
        let fallback := (Entries.lookup "default" named).getD .undefined
        return .list (← items.mapM (fieldOr place fallback))
      | some _, _ => Argument.tooMany
      | none, [] => .error (.invalid "filter name is required")
      | none, .str other :: rest =>
        let rest := if named.isEmpty then rest else rest ++ [.keywords named]
        if Filter.isKnown other then
          return .list (← items.mapM fun item ↦
            (callWithin fuel other item rest).getD (.error (.bare .unknownFilter)))
        else .error (.bare .unknownFilter)
      | none, _ => .error (.invalid "filter name must be a string")
    | name => (scalar? name value arguments).or (collection? name value arguments)

def call? (name : String) (value : Value) (arguments : List Value) :
    Option (Except Fault Value) :=
  callWithin (arguments.length + 1) name value arguments

end Filter

end Playbook.Template
