import Playbook.ControlField
import Playbook.Error
import Playbook.TaskKind

/-!
# Registries of task kinds

A registry knows task kinds by name. No kind has the name of a control field, and no two kinds
share a name.
-/

namespace Playbook

structure Registry where
  kinds : SortedMap TaskKind

namespace Registry

def empty : Registry := ⟨∅⟩

instance : Inhabited Registry := ⟨empty⟩

def has (registry : Registry) (name : String) : Bool :=
  registry.kinds.contains name

def names (registry : Registry) : List String :=
  registry.kinds.keys

def register (registry : Registry) (kind : TaskKind) : Except RegistrationError Registry :=
  if (ControlField.ofKey? kind.name).isSome then .error (.reservedName kind.name)
  else if registry.has kind.name then .error (.duplicate kind.name)
  else .ok ⟨registry.kinds.insert kind.name kind⟩

/-- Registers the kinds in order; the first that is refused decides. -/
def registerAll (registry : Registry) : List TaskKind → Except RegistrationError Registry
  | [] => .ok registry
  | kind :: rest =>
    match registry.register kind with
    | .ok registry => registry.registerAll rest
    | .error error => .error error

def ofKinds (kinds : List TaskKind) : Except RegistrationError Registry :=
  empty.registerAll kinds

def find (registry : Registry) (name : String) : Except TaskError TaskKind :=
  match registry.kinds.get? name with
  | some kind => .ok kind
  | none => .error (.notRegistered name)

/-- The text that shows a registry: its names, in order. -/
def describe (registry : Registry) : String :=
  "TaskRegistry \x7b tasks: [" ++ ", ".intercalate (registry.names.map Text.quote) ++ "] \x7d"

end Registry

end Playbook
