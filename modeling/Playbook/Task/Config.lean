import Playbook.Element
import Playbook.Error
import Playbook.FilePath
import Playbook.Json.Decoding
import Playbook.Text.Blank

/-!
# Configurations of tasks

What a task is told: its configuration, decoded into a record, and its variables.
-/

namespace Playbook

/-- A resolved element as its task sees it. -/
structure TaskView where
  task : Option Invocation
  /-- The variables of the element and of all blocks around it. -/
  environment : Environment

namespace TaskView

def config (view : TaskView) : Except TaskError Config :=
  match view.task with
  | some task => .ok task.config
  | none => .error .missing

/-- Decodes the configuration. -/
def read {α : Type} (view : TaskView) (decode : Config → Except DecodeError α) :
    Except TaskError α :=
  match view.task with
  | none => .error .missing
  | some task =>
    match decode task.config with
    | .ok value => .ok value
    | .error fault =>
      .error (.configuration ("Invalid " ++ task.kind ++ " config: " ++ fault.message))

end TaskView

structure ShellConfig where
  command : String
  shell : String
  directory : Option String

namespace ShellConfig

def defaultShell : String := "/bin/bash"

/-- The fields met so far. -/
structure Parts where
  command : Option String
  shell : Option String
  directory : Option (Option String)

def step (parts : Parts) (field : String × Json) : Except DecodeError Parts :=
  if field.1 = "cmd" ∨ field.1 = "command" then
    (Json.once "cmd" parts.command (field.2.toText "a string")).map fun command ↦
      { parts with command }
  else if field.1 = "shell" then
    (Json.once "shell" parts.shell (field.2.toText "a string")).map fun shell ↦
      { parts with shell }
  else if field.1 = "chdir" then
    (Json.once "chdir" parts.directory field.2.toOptionalText).map fun directory ↦
      { parts with directory }
  else .ok parts

def decode (config : Config) : Except DecodeError ShellConfig := do
  let parts ← config.foldlM step ⟨none, none, none⟩
  let command ← Json.required "cmd" parts.command
  return ⟨command, parts.shell.getD defaultShell, parts.directory.getD none⟩

end ShellConfig

structure TemplateConfig where
  source : FilePath
  target : FilePath
  mode : Nat

namespace TemplateConfig

def defaultMode : Nat := 0o644

/-- Drops every leading `0o`. -/
def dropMarks : List Char → List Char
  | '0' :: 'o' :: rest => dropMarks rest
  | rest => rest

/-- Permission bits: a number, or a text of octal digits. -/
def decodeMode : Json → Except DecodeError Nat
  | .int n => if 0 ≤ n ∧ n < Nat.pow 2 32 then .ok n.toNat else .error .noMode
  | .str text =>
    match Decimal.Integer.nat32 8 (dropMarks (Text.trimList text.toList)) with
    | .ok n => .ok n.toNat
    | .error fault => .error (.invalidMode text fault)
  | _ => .error .noMode

structure Parts where
  source : Option FilePath
  target : Option FilePath
  mode : Option Nat

def step (parts : Parts) (field : String × Json) : Except DecodeError Parts :=
  if field.1 = "src" then
    (Json.once "src" parts.source field.2.toPath).map fun source ↦ { parts with source }
  else if field.1 = "dest" then
    (Json.once "dest" parts.target field.2.toPath).map fun target ↦ { parts with target }
  else if field.1 = "mode" then
    (Json.once "mode" parts.mode (decodeMode field.2)).map fun mode ↦ { parts with mode }
  else .ok parts

def decode (config : Config) : Except DecodeError TemplateConfig := do
  let parts ← config.foldlM step ⟨none, none, none⟩
  let source ← Json.required "src" parts.source
  let target ← Json.required "dest" parts.target
  return ⟨source, target, parts.mode.getD defaultMode⟩

end TemplateConfig

/-- The files that a configuration names under `files`. -/
def decodeFiles (config : Config) : Except DecodeError (List FilePath) :=
  match Entries.lookup "files" config with
  | some value => value.toPaths
  | none => .error (.missingField "files")

def decodeMessage (config : Config) : Except DecodeError Json :=
  match Entries.lookup "msg" config with
  | some value => .ok value
  | none => .error (.missingField "msg")

def decodeText (config : Config) : Except DecodeError String :=
  match Entries.lookup "text" config with
  | some value => value.toText "a string"
  | none => .error (.missingField "text")

end Playbook
