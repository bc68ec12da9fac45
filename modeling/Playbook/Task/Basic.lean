import Playbook.Report
import Playbook.Session
import Playbook.Shell.Run
import Playbook.Task.Config

/-!
# Tasks

A task is made anew for every execution. `Task.init` takes what it needs from the resolved element
and refuses a configuration that does not fit; `Task.run` has the effect and may give an output.
-/

namespace Playbook

/-- A task of some kind, with what it was told; without `init` it was told nothing. -/
inductive Task where
  | shell (told : Option (ShellConfig × Environment))
  | template (told : Option TemplateConfig)
  | setFact (config : Config)
  | include (files : List FilePath)
  | mergeFacts (config : Config)
  | echo (message : Option Json)
  | env (environment : Option Environment)
  | fail (config : Config)
  | badInit
  | render (text : String)
  | snapshot
  | cancel
  | cancelled
  | tryFile (path : FilePath)
  | inert (name : String)

namespace Task

def new : TaskKind → Task
  | .shell => .shell none
  | .template => .template none
  | .setFact => .setFact []
  | .include => .include []
  | .mergeFacts => .mergeFacts []
  | .echo => .echo none
  | .env => .env none
  | .fail => .fail []
  | .badInit => .badInit
  | .render => .render ""
  | .snapshot => .snapshot
  | .cancel => .cancel
  | .cancelled => .cancelled
  | .tryFile => .tryFile ""
  | .inert name => .inert name

def kind : Task → TaskKind
  | .shell _ => .shell
  | .template _ => .template
  | .setFact _ => .setFact
  | .include _ => .include
  | .mergeFacts _ => .mergeFacts
  | .echo _ => .echo
  | .env _ => .env
  | .fail _ => .fail
  | .badInit => .badInit
  | .render _ => .render
  | .snapshot => .snapshot
  | .cancel => .cancel
  | .cancelled => .cancelled
  | .tryFile _ => .tryFile
  | .inert name => .inert name

/-- A task of a kind that was told its configuration and its variables. -/
def init (kind : TaskKind) (view : TaskView) : Except TaskError Task :=
  match kind with
  | .shell =>
    (view.read ShellConfig.decode).map fun config ↦ .shell (some (config, view.environment))
  | .template => (view.read TemplateConfig.decode).map fun config ↦ .template (some config)
  | .setFact => view.config.map .setFact
  | .include => (view.read decodeFiles).map .include
  | .mergeFacts => view.config.map .mergeFacts
  | .echo => (view.read decodeMessage).map fun message ↦ .echo (some message)
  | .env => .ok (.env (some view.environment))
  | .fail => view.config.map .fail
  | .badInit => .error (.configuration "rejected")
  | .render => (view.read decodeText).map .render
  | .snapshot => .ok .snapshot
  | .cancel => .ok .cancel
  | .cancelled => .ok .cancelled
  | .tryFile => (view.read decodeText).map .tryFile
  | .inert name => .ok (.inert name)

/-- The output of an ended shell, or how it failed. -/
def outputOf (outcome : Shell.Outcome) : Except TaskError String :=
  let failed (status : String) : Except TaskError String :=
    .error (.executionFailed
      ("Command exited with " ++ status ++ ": " ++ Text.trim (Text.Utf8.lossy outcome.errors)))
  match outcome.status with
  | .killed => failed "signal"
  | .exited 0 => .ok (Text.Utf8.lossy outcome.output)
  | .exited code => failed (toString code)

/-- Runs a command and gives its output; the variables are put over those of the process. -/
def execute (context : Context) (command shell : String) (directory : Option FilePath)
    (environment : Environment) : Acting TaskError String := do
  let s ← get
  match Shell.start s.files shell command directory
      (context.environment.insertMany environment.entries) with
  | .error fault => throw (.process ("Failed to spawn process: " ++ fault.message))
  | .ok outcome =>
    set { s with files := outcome.files }
    match outputOf outcome with
    | .ok output => return output
    | .error error => throw error

def runShell (context : Context) (spans : List String) (config : ShellConfig)
    (environment : Environment) : Acting TaskError (Option Json) := do
  if (← get).cancelled then throw .cancelled
  Acting.log spans .debug "Executing shell command"
  let output ← execute context config.command config.shell config.directory environment
  Acting.log spans .info "Shell command finished"
  return some (.str output)

def fileFault (action : String) (path : FilePath) (fault : FileError) : TaskError :=
  .io ("Failed to " ++ action ++ " " ++ path ++ ": " ++ fault.message)

def runTemplate (context : Context) (spans : List String) (config : TemplateConfig) :
    Acting TaskError (Option Json) := do
  let text ← Acting.because (fileFault "read" config.source)
    (Acting.readFor .template config.source)
  let rendered ← Acting.because (fun error ↦ TaskError.template error.text)
    (Acting.resolving context (Resolving.text · text))
  Acting.because (fileFault "write" config.target)
    (Acting.changeFiles (·.write config.target (Text.Utf8.encode rendered)))
  Acting.because (fun fault ↦ TaskError.io fault.message)
    (Acting.changeFiles (·.setMode config.target config.mode))
  Acting.log spans .info "Rendered template"
  return some (.str rendered)

/-- Runs playbook files one after another. -/
def runFiles (runFile : FilePath → Acting ExecutionError Unit) :
    List FilePath → Acting TaskError Unit
  | [] => return ()
  | file :: rest => do
    Acting.because (TaskError.include file) (runFile file)
    runFiles runFile rest

/-- What a task that runs a file says of it: `ok`, or the error. -/
def describe : Except ExecutionError Unit → Json
  | .ok () => .str "ok"
  | .error error => error.report

/-- Runs a task; `runFile` runs a playbook file on the same facts. -/
def run (context : Context) (spans : List String)
    (runFile : FilePath → Acting ExecutionError Unit) : Task → Acting TaskError (Option Json)
  | .shell none => throw (.configuration "shell task not initialized")
  | .shell (some (config, environment)) => runShell context spans config environment
  | .template none => throw (.configuration "template task not initialized")
  | .template (some config) => runTemplate context spans config
  | .setFact config => do
    Acting.log spans .debug "Setting facts"
    modify (·.mergeFacts config)
    return none
  | .include files => do
    runFiles runFile files
    return none
  | .mergeFacts config => do
    modify (·.mergeFacts config)
    return none
  | .echo message => return message
  | .env environment => return some (environment.elim .null Json.ofStrings)
  | .fail config =>
    match Entries.lookup "msg" config with
    | some (.str text) => throw (.executionFailed text)
    | _ => throw (.executionFailed "boom")
  | .badInit => return none
  | .render text => do
    let rendered ← Acting.because (fun error ↦ TaskError.template error.text)
      (Acting.resolving context (Resolving.text · text))
    return some (.str rendered)
  | .snapshot => return some (Json.ofMap (← get).facts)
  | .cancel => do
    modify (·.cancel)
    return none
  | .cancelled => return some (.bool (← get).cancelled)
  | .tryFile path => do
    let result ← Acting.attempt (runFile path)
    return some (describe result)
  | .inert _ => return none

end Task

end Playbook
