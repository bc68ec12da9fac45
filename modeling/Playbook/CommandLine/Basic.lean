import Playbook.CommandLine.Arguments
import Playbook.CommandLine.Defaults
import Playbook.Engine
import Playbook.Template.Engine
import Playbook.VariableFile

/-!
# The command line

A command gives a text to print and an exit code. An error is printed with everything that caused
it, one cause a line.
-/

namespace Playbook.CommandLine

/-- What a command leaves behind when it ends. -/
structure Outcome where
  code : Nat
  output : String := ""
  errors : String := ""
  deriving DecidableEq, Repr

/-- A failure of a command: what it was about, and what caused it, nearest first. -/
structure Failure where
  context : String
  causes : List String
  deriving DecidableEq, Repr

def spaces (count : Nat) : String :=
  String.ofList (List.replicate count ' ')

/-- A cause; the lines after its first one are moved to the right. -/
def causeText (label margin cause : String) : String :=
  "\n" ++ label ++ Text.replace "\n" ("\n" ++ margin) cause

def numbered : (number : Nat) → List String → String
  | _, [] => ""
  | number, cause :: rest =>
    let digits := toString number
    let label := spaces (5 - digits.length) ++ digits ++ ": "
    causeText label (spaces 7) cause ++ numbered (number + 1) rest

def Failure.text (failure : Failure) : String :=
  let causes := match failure.causes with
    | [] => ""
    | [cause] => "\n\nCaused by:" ++ causeText (spaces 4) (spaces 4) cause
    | causes => "\n\nCaused by:" ++ numbered 0 causes
  "Error: " ++ failure.context ++ causes ++ "\n"

def version : String := "tasktreectl 0.3.0"

/-- The base directory of a run and its file as seen from there: without a base directory, the
directory of the file. -/
def locations (file : FilePath) (base : Option FilePath) : FilePath × FilePath :=
  match base with
  | some base => (base, file)
  | none =>
    let directory := (file.parent?.filter (!·.isEmpty)).getD "."
    (directory, file.fileName?.getD file)

/-- The setting of one variable: a name and a JSON value, or a text as it stands. -/
def setting? (argument : String) : Option (String × Json) :=
  let name := argument.toList.takeWhile (· != '=')
  match argument.toList.drop name.length with
  | [] => none
  | _ :: value =>
    let text := String.ofList value
    let json := match Json.parse text with
      | .ok json => json
      | .error _ => .str text
    some (String.ofList name, json)

/-- The variables that a run starts with. Settings win over the object, and later ones over
earlier ones. -/
def initialFacts (object : Option String) (settings : List String) :
    Except Failure Facts := do
  let start ← match object with
    | none => .ok ∅
    | some text =>
      match Json.parse text with
      | .ok (.obj fields) => .ok (SortedMap.ofList fields)
      | .ok _ => .error ⟨"--vars must be a JSON object, not an array or primitive", []⟩
      | .error message => .error ⟨"Invalid JSON in --vars", [message]⟩
  return start.insertMany (settings.filterMap setting?)

/-- The files that commands work on, and which of them were read, the latest first. -/
structure Disk where
  files : FileSystem
  reads : List FilePath := []

/-- The work of a command; it gives a text to print. -/
abbrev Work := ExceptT Failure (StateM Disk) String

def Outcome.ofResult : Except Failure String → Outcome
  | .ok output => ⟨0, output, ""⟩
  | .error failure => ⟨1, "", failure.text⟩

/-- Runs something in a new session on the files. -/
def inSession {α : Type} (settings : Settings) (action : Acting ExecutionError α) :
    ExceptT ExecutionError (StateM Disk) (α × Session) := fun disk ↦
  let (result, s) := action.run (Session.start settings disk.files)
  (result.map fun value ↦ (value, s), ⟨s.files, s.journal.reads.map (·.path) ++ disk.reads⟩)

def runFile (registry : Registry) (environment : Environment) (defaults : Defaults)
    (options : RunOptions) : Work := do
  let (base, path) := locations options.file (options.baseDirectory.or defaults.baseDirectory)
  let facts ← ExceptT.mk (pure (initialFacts options.object options.settings))
  let limit := defaults.includeLimit.getD Settings.standard.includeLimit
  let settings : Settings := ⟨base, facts, limit⟩
  let context : Context := ⟨settings, registry, Template.resolver, environment⟩
  let failed (error : ExecutionError) : Failure :=
    ⟨"Playbook " ++ options.file ++ " failed", error.message :: error.causes.map Cause.text⟩
  let ((), s) ← (inSession settings (runPlaybook context path)).adapt failed
  return if options.printFacts then (Json.ofMap s.facts).pretty ++ "\n" else ""

def checkFile (registry : Registry) (file : FilePath) : Work := do
  let context : Context := ⟨.standard, registry, Template.resolver, ∅⟩
  let failed (error : ExecutionError) : Failure :=
    ⟨"Invalid playbook " ++ file, error.message :: error.causes.map Cause.text⟩
  let (tree, _) ← (inSession .standard
    (Acting.because .parse (Engine.loadTree context file))).adapt failed
  return s!"{file}: OK ({tree.size} elements, {tree.roots.length} top-level)\n"

def perform (registry : Registry) (environment : Environment) (defaults : Defaults) :
    Command → Work
  | .run options => runFile registry environment defaults options
  | .check file => checkFile registry file
  | .tasks => return String.join (registry.names.map (· ++ "\n"))

/-- The name of the file of variables. -/
def variableFile : FilePath := ".env"

/-- The variables of the process with those of the file of variables, if there is one. -/
def withVariableFile (environment : Environment) (files : FileSystem) : Environment :=
  match files.readText variableFile with
  | .ok text => VariableFile.load environment text
  | .error _ => environment

/-- Runs the program. -/
def execute (environment : Environment) (arguments : List String) : StateM Disk Outcome := do
  let environment := withVariableFile environment (← get).files
  match parse arguments with
  | none => return ⟨2, "", ""⟩
  | some .help => return ⟨0, "", ""⟩
  | some .version => return ⟨0, version ++ "\n", ""⟩
  | some (.command _ command) =>
    match Defaults.ofVariables environment, Registry.ofKinds TaskKind.standard with
    | .error fault, _ =>
      return .ofResult (.error ⟨"Invalid TASKTREE_ environment variables", [fault.message]⟩)
    | .ok _, .error error =>
      return .ofResult (.error ⟨"Failed to register tasks", [error.message]⟩)
    | .ok defaults, .ok registry =>
      return .ofResult (← (perform registry environment defaults command).run)

end Playbook.CommandLine
