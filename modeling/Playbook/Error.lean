import Playbook.FileError
import Playbook.Location
import Playbook.Template.Resolver
import Playbook.Yaml.Fault
import Playbook.Yaml.Node

/-!
# Errors

What can stop the reading of a playbook, the registration of a task kind, a task and a run. Every
error has a message, and some are caused by an error underneath.
-/

namespace Playbook

/-- The shape a node was expected to have. -/
inductive Shape where
  | sequence
  | mapping
  | stringKey
  | boolean
  | scalar
  deriving DecidableEq, Repr

def Shape.name : Shape → String
  | .sequence => "sequence"
  | .mapping => "mapping"
  | .stringKey => "string key"
  | .boolean => "boolean"
  | .scalar => "scalar"

inductive ParseError where
  | io (path : String) (cause : FileError)
  | yaml (cause : Yaml.Fault)
  | unexpectedNode (location : Location) (expected : Shape) (found : Yaml.Kind)
  | unknownField (location : Location) (field : String)
  | duplicateTask (location : Location) (existing task : String)
  | invalidField (location : Location) (field reason : String)
  | invalidElement (location : Location) (reason : String)
  deriving DecidableEq, Repr

/-- What lies underneath an error. -/
inductive Cause where
  | message (text : String)
  | yaml (fault : Yaml.Fault)
  deriving DecidableEq, Repr

def Cause.text : Cause → String
  | .message text => text
  | .yaml fault => fault.message

namespace ParseError

def message : ParseError → String
  | .io path cause => "Failed to read " ++ path ++ ": " ++ cause.message
  | .yaml cause => "YAML error: " ++ cause.message
  | .unexpectedNode location expected found =>
    location.text ++ ": expected " ++ expected.name ++ ", found " ++ found.name
  | .unknownField location field => location.text ++ ": unknown field '" ++ field ++ "'"
  | .duplicateTask location existing task =>
    location.text ++ ": task is already configured as '" ++ existing ++ "', cannot add '" ++ task ++
      "'"
  | .invalidField location field reason =>
    location.text ++ ": invalid value for '" ++ field ++ "': " ++ reason
  | .invalidElement location reason => location.text ++ ": " ++ reason

/-- The causes underneath, nearest first. -/
def causes : ParseError → List Cause
  | .io _ cause => [.message cause.message]
  | .yaml cause => [.yaml cause]
  | _ => []

end ParseError

inductive RegistrationError where
  | duplicate (name : String)
  | reservedName (name : String)
  deriving DecidableEq, Repr

def RegistrationError.message : RegistrationError → String
  | .duplicate name => "Task " ++ name ++ " is already registered"
  | .reservedName name => "Task name '" ++ name ++ "' collides with a control field"

mutual

/-- Why a task failed. -/
inductive TaskError where
  | notRegistered (kind : String)
  | missing
  | init (task : String) (cause : TaskError)
  | configuration (text : String)
  | executionFailed (text : String)
  | process (text : String)
  | template (text : String)
  | io (text : String)
  | json (text : String)
  | cancelled
  | include (file : String) (cause : ExecutionError)

/-- Why a run stopped. -/
inductive ExecutionError where
  | parse (cause : ParseError)
  | resolve (cause : ResolveError)
  | task (task : String) (cause : TaskError)
  | loopNotArray (rendered reason : String)
  | includeDepth (limit : Nat)
  /-- Blocks nest deeper than a walk through the tree goes; only a block inside itself does that. -/
  | blockDepth
  /-- A block names a slot that the tree does not have; no parsed tree does that. -/
  | unknownSlot (slot : Nat)

end

instance : Inhabited TaskError := ⟨.missing⟩

instance : Inhabited ExecutionError := ⟨.blockDepth⟩

mutual

def TaskError.message : TaskError → String
  | .notRegistered kind => "Task not registered: " ++ kind
  | .missing => "Element has no task"
  | .init task cause => "Init failed for task " ++ task ++ ": " ++ cause.message
  | .configuration text => "Configuration error: " ++ text
  | .executionFailed text => "Execution failed: " ++ text
  | .process text => "Process error: " ++ text
  | .template text => "Template error: " ++ text
  | .io text => "I/O error: " ++ text
  | .json text => "JSON error: " ++ text
  | .cancelled => "Cancelled"
  | .include file cause => "Include of " ++ file ++ " failed: " ++ cause.message

def ExecutionError.message : ExecutionError → String
  | .parse cause => cause.message
  | .resolve cause => cause.text
  | .task task cause => "Task '" ++ task ++ "' failed: " ++ cause.message
  | .loopNotArray rendered reason =>
    "Loop variable did not resolve to a JSON array (" ++ rendered ++ "): " ++ reason
  | .includeDepth limit => "Include depth limit of " ++ toString limit ++ " exceeded"
  | .blockDepth => "Blocks are nested too deep"
  | .unknownSlot slot => "No element at slot " ++ toString slot

end

mutual

/-- The causes underneath, nearest first. -/
def TaskError.causes : TaskError → List Cause
  | .init _ cause => .message cause.message :: cause.causes
  | .include _ cause => .message cause.message :: cause.causes
  | _ => []

def ExecutionError.causes : ExecutionError → List Cause
  | .parse cause => cause.causes
  | .task _ cause => .message cause.message :: cause.causes
  | _ => []

end

end Playbook
