import Playbook.Decimal.Reading
import Playbook.Element
import Playbook.FilePath
import Playbook.Text.CaseMap

/-!
# Defaults from variables

Variables of the process whose names start with a mark stand for options that were not given. The
case of the rest of the name does not matter.
-/

namespace Playbook

/-- What stands in for options. -/
structure Defaults where
  baseDirectory : Option FilePath := none
  includeLimit : Option Nat := none
  log : Option String := none
  deriving DecidableEq, Repr

namespace Defaults

inductive Fault where
  | repeated (field : String)
  | number (cause : Decimal.Integer.Fault) (text name : String)

def Fault.message : Fault → String
  | .repeated field => "duplicate field \x60" ++ field ++ "\x60"
  | .number cause text name =>
    cause.message ++ " while parsing value '" ++ text ++ "' provided by " ++ name

def mark : String := "TASKTREE_"

/-- What follows the marks at the start of a name. -/
def unmarked (name : List Char) : (fuel : Nat) → List Char
  | 0 => name
  | fuel + 1 =>
    if mark.toList.isPrefixOf name then unmarked (name.drop mark.length) fuel else name

/-- The name that a variable of the process gives a default for. -/
def name? (marked : String) : Option String :=
  if mark.toList.isPrefixOf marked.toList then
    some (String.ofList (unmarked marked.toList marked.length))
  else none

/-- A field that is given at most once. -/
def once {α : Type} (field : String) (before : Option α) (value : Except Fault α) :
    Except Fault (Option α) :=
  if before.isSome then .error (.repeated field) else value.map some

def take (defaults : Defaults) (name value : String) : Except Fault Defaults :=
  match Text.lower name with
  | "base_dir" =>
    (once "base_dir" defaults.baseDirectory (.ok value)).map fun baseDirectory ↦
      { defaults with baseDirectory }
  | "max_include_depth" =>
    let limit := match Decimal.Integer.nat64 10 value.toList with
      | .ok n => .ok n.toNat
      | .error cause => .error (.number cause value name)
    (once "max_include_depth" defaults.includeLimit limit).map fun includeLimit ↦
      { defaults with includeLimit }
  | "log" => (once "log" defaults.log (.ok value)).map fun log ↦ { defaults with log }
  | _ => .ok defaults

def ofVariables (environment : Environment) : Except Fault Defaults :=
  environment.entries.foldlM (fun defaults (marked, value) ↦
    match name? marked with
    | some name => take defaults name value
    | none => .ok defaults) {}

end Defaults

end Playbook
