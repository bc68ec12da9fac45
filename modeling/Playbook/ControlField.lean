/-!
# Control fields

The keys with a fixed meaning on every element. Any other key names the kind of a task.
-/

namespace Playbook

inductive ControlField where
  | name
  | register
  | guards
  | environment
  | loop
  | ignoreErrors
  | block
  deriving DecidableEq, Repr

namespace ControlField

def all : List ControlField :=
  [.name, .register, .guards, .environment, .loop, .ignoreErrors, .block]

def text : ControlField → String
  | .name => "name"
  | .register => "register"
  | .guards => "when"
  | .environment => "environment"
  | .loop => "loop"
  | .ignoreErrors => "ignore_errors"
  | .block => "block"

def ofKey? (key : String) : Option ControlField :=
  all.find? (·.text == key)

end ControlField

end Playbook
