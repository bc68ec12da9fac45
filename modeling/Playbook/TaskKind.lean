/-!
# Kinds of tasks

The kinds that a playbook is written with, and kinds that show what a run does.
-/

namespace Playbook

inductive TaskKind where
  /-- Runs a command and gives its output. -/
  | shell
  /-- Renders a file into another one. -/
  | template
  /-- Writes its configuration into the facts. -/
  | setFact
  /-- Runs other playbook files on the same facts. -/
  | include
  | mergeFacts
  | echo
  | env
  | fail
  | badInit
  | render
  | snapshot
  | cancel
  | cancelled
  | tryFile
  /-- A kind that does nothing. -/
  | inert (name : String)
  deriving DecidableEq, Repr

namespace TaskKind

def name : TaskKind → String
  | .shell => "shell"
  | .template => "template"
  | .setFact => "set_fact"
  | .include => "include"
  | .mergeFacts => "merge_facts"
  | .echo => "echo"
  | .env => "env"
  | .fail => "fail"
  | .badInit => "bad_init"
  | .render => "render"
  | .snapshot => "snapshot"
  | .cancel => "cancel"
  | .cancelled => "cancelled"
  | .tryFile => "try_file"
  | .inert name => name

def standard : List TaskKind :=
  [.shell, .template, .setFact, .include]

def observers : List TaskKind :=
  [.mergeFacts, .echo, .env, .fail, .badInit, .render, .snapshot, .cancel, .cancelled, .tryFile]

/-- Whether a task of this kind leaves a trace of its steps. -/
def isTraced (kind : TaskKind) : Bool :=
  kind ∈ observers

end TaskKind

end Playbook
