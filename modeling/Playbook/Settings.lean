import Playbook.FilePath
import Playbook.Json.Decoding
import Playbook.Facts

/-!
# Settings of a run

The settings come with defaults and may be decoded from a JSON object, or from an array that gives
them by position.
-/

namespace Playbook

structure Settings where
  /-- The directory from which relative paths of playbooks are seen. -/
  baseDirectory : FilePath
  /-- The facts a run starts with. -/
  facts : Facts
  /-- How many included files may be open inside each other. -/
  includeLimit : Nat

namespace Settings

def standard : Settings := ⟨".", ∅, 64⟩

instance : Inhabited Settings := ⟨standard⟩

/-- Where the playbook at `path` is read; an absolute path is kept. -/
def locate (settings : Settings) (path : FilePath) : FilePath :=
  FilePath.join settings.baseDirectory path

def withVariable (settings : Settings) (name : String) (value : Json) : Settings :=
  { settings with facts := settings.facts.insert name value }

def decodeField (settings : Settings) (field : String × Json) : Except DecodeError Settings :=
  if field.1 = "base_dir" then
    field.2.toPath.map fun baseDirectory ↦ { settings with baseDirectory }
  else if field.1 = "extra_vars" then
    field.2.toFields.map fun fields ↦ { settings with facts := .ofList fields }
  else if field.1 = "max_include_depth" then
    field.2.toSize.map fun includeLimit ↦ { settings with includeLimit }
  else .ok settings

def fieldNames : List String := ["base_dir", "extra_vars", "max_include_depth"]

def decode : Json → Except DecodeError Settings
  | .obj fields => fields.foldlM decodeField standard
  | .arr items =>
    match (fieldNames.zip items).foldlM decodeField standard with
    | .error fault => .error fault
    | .ok settings =>
      if items.length ≤ fieldNames.length then .ok settings else .error (.tooLong items.length)
  | other => .error (.wrongType other "struct PlaybookConfig")

/-- The settings as they are shown. -/
def describe (settings : Settings) : String :=
  "PlaybookConfig \x7b base_dir: " ++ Text.quote settings.baseDirectory ++
    ", extra_vars: " ++ settings.facts.describe ++ ", max_include_depth: " ++
    toString settings.includeLimit ++ " \x7d"

end Settings

end Playbook
