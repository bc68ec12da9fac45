import Playbook.Template.Expression

/-!
# Arguments of filters and tests

Named arguments of a call come as one value behind the others. Filters that do not know names take
it as one more argument.
-/

namespace Playbook.Template.Argument

def tooMany {α : Type} : Except Fault α :=
  .error (.bare .tooManyArguments)

/-- Passes the result on if there are at most `count` arguments. -/
def upTo {α : Type} (count : Nat) (arguments : List Value) (result : Except Fault α) :
    Except Fault α :=
  if arguments.length ≤ count then result else tooMany

/-- The argument at a place. -/
def required (place : Nat) (arguments : List Value) : Except Fault Value :=
  match arguments[place]? with
  | some value => .ok value
  | none => .error (.bare .missingArgument)

/-- The argument at a place where one may be left out; an absent value counts as none. -/
def optional (place : Nat) (arguments : List Value) : Option Value :=
  arguments[place]?.filter fun value ↦ !value.isAbsent

def flag (place : Nat) (arguments : List Value) : Bool :=
  (optional place arguments).any Value.isTrue

/-- A number of items or characters. -/
def count (value : Value) : Except Fault Nat :=
  match value.index? with
  | some n =>
    if 0 ≤ n then .ok n.toNat
    else .error (.invalid ("cannot convert " ++ value.kind ++ " to usize"))
  | none => .error (.invalid ("cannot convert " ++ value.kind ++ " to usize"))

/-- The positional arguments, and the named ones behind them. -/
def split (arguments : List Value) : List Value × List (String × Value) :=
  match arguments.getLast? with
  | some (.keywords entries) => (arguments.dropLast, entries)
  | _ => (arguments, [])

def named? (name : String) (entries : List (String × Value)) : Option Value :=
  (Entries.lookup name entries).filter fun value ↦ !value.isAbsent

def namedFlag (name : String) (entries : List (String × Value)) : Bool :=
  (named? name entries).any Value.isTrue

/-- Passes the result on if all named arguments are known. -/
def knowing {α : Type} (names : List String) (entries : List (String × Value))
    (result : Except Fault α) : Except Fault α :=
  match entries.find? fun entry ↦ entry.1 ∉ names with
  | some entry =>
    .error ⟨.tooManyArguments, some ("unknown keyword argument '" ++ entry.1 ++ "'"), 0⟩
  | none => result

/-- The items a filter works on. -/
def items (value : Value) : Except Fault (List Value) :=
  match value.items? with
  | some found => .ok found
  | none => .error (.invalid "cannot convert value to list")

/-- The value at a path of fields and positions divided by points. -/
def path (fields : List String) (value : Value) : Except Fault Value :=
  match fields with
  | [] => .ok value
  | name :: rest =>
    let key := match Decimal.Integer.nat64 10 name.toList with
      | .ok n => Value.int n
      | .error _ => .str name
    match value.get? key, value with
    | some found, _ => path rest found
    | none, .undefined => .error (.bare .undefinedValue)
    | none, _ => path rest .undefined

end Playbook.Template.Argument
