import Playbook.Document
import Playbook.Json.Reading
import Playbook.Task.Basic

/-!
# Running playbooks

Elements run depth first and one after another. An element whose guards do not all hold is
skipped; a loop binds its items one by one and runs the element for each; a block runs its
children, and any other element its task. The first error that no element ignores stops the run.
-/

namespace Playbook

namespace Engine

abbrev Run := Acting ExecutionError Unit

/-- Runs a playbook file for the elements whose names are given. -/
abbrev RunFile := (spans : List String) → FilePath → Run

/-- Whether all guards hold; one that cannot be resolved does not. -/
def holds (context : Context) (spans : List String) :
    List String → Acting ExecutionError Bool
  | [] => return true
  | guard :: rest => do
    match ← Acting.attempt (Acting.resolving context (Resolving.text · guard)) with
    | .ok "false" => return false
    | .ok _ => holds context spans rest
    | .error _ =>
      Acting.log spans .warn "Condition failed to resolve, skipping element"
      return false

/-- The items of a loop. A template must render a JSON array. -/
def loopItems (context : Context) (spec : LoopSpec) : Acting ExecutionError (List Json) := do
  match ← Acting.because .resolve (Acting.resolving context (spec.resolve ·)) with
  | .items values => return values
  | .var rendered =>
    match Json.parseList rendered with
    | .ok values => return values
    | .error reason => throw (.loopNotArray rendered reason)

/-- Runs a task that is ready; a failure may be ignored. -/
def runTask (context : Context) (runFile : RunFile) (spans : List String) (element : Element)
    (kind : String) (task : Task) : Acting ExecutionError (Option Json) := do
  Acting.note (.run task.kind)
  match ← Acting.attempt (task.run context spans (runFile spans)) with
  | .ok output => return output
  | .error error =>
    if element.ignoreErrors then
      Acting.log spans .warn "Task failed, ignoring error"
      return none
    else throw (.task kind error)

/-- Stores an output under the name that the element registers. -/
def store (spans : List String) (element : Element) (output : Option Json) : Run := do
  match element.register, output with
  | some name, some value =>
    Acting.log spans .debug "Registering task output"
    modify (·.setFact name value)
  | _, _ => return ()

/-- Runs the task of a resolved element. -/
def dispatch (context : Context) (runFile : RunFile) (spans : List String) (element : Element)
    (environment : Environment) : Run := do
  match element.task with
  | none => throw (.task element.displayName .missing)
  | some invocation =>
    match context.registry.find invocation.kind with
    | .error error => throw (.task invocation.kind error)
    | .ok kind =>
      Acting.log spans .info ("Running task " ++ element.displayName)
      Acting.note (.init kind invocation.config environment)
      match Task.init kind ⟨some invocation, environment⟩ with
      | .error error => throw (.task invocation.kind (.init invocation.kind error))
      | .ok task =>
        let output ← runTask context runFile spans element invocation.kind task
        store spans element output

/-- Resolves an element, and for a task the variables of the blocks around it. -/
def snapshot (tree : Tree) (slot : Slot) (element : Element) (scope : Scope) :
    Resolving (Element × Environment) := do
  let resolved ← element.resolve scope
  if resolved.isBlock then return (resolved, ∅)
  else return (resolved, ← tree.resolveEnvironment scope slot resolved.environment)

def runAll (run : Slot → Run) : List Slot → Run
  | [] => return ()
  | slot :: rest => do
    run slot
    runAll run rest

/-- Runs something once for every item; the item is bound meanwhile, and unbound also when that
fails. -/
def runItems (once : Run) : List Json → Run
  | [] => return ()
  | item :: rest => do
    modify (·.setFact Facts.loopItem item)
    let result ← Acting.attempt once
    modify (·.removeFact Facts.loopItem)
    match result with
    | .ok () => runItems once rest
    | .error error => throw error

/-- Runs an element for one binding of its loop; `child` runs the elements of its block. -/
def runOnce (context : Context) (runFile : RunFile) (tree : Tree) (child : Slot → Run)
    (spans : List String) (slot : Slot) (element : Element) : Run := do
  let (resolved, environment) ← Acting.because .resolve
    (Acting.resolving context (snapshot tree slot element))
  if resolved.isBlock then runAll child resolved.block
  else dispatch context runFile spans resolved environment

/-- Runs the element at a slot, following blocks at most `depth` levels down. -/
def runElement (context : Context) (runFile : RunFile) (tree : Tree) :
    (depth : Nat) → (spans : List String) → Slot → Run
  | 0, _, _ => throw .blockDepth
  | depth + 1, spans, slot => do
    match tree.get? slot with
    | none => throw (.unknownSlot slot)
    | some element =>
      let spans := spans ++ [element.displayName]
      if ← holds context spans element.guards then
        let once := runOnce context runFile tree (runElement context runFile tree depth spans) spans
          slot element
        match element.loop with
        | none => once
        | some spec =>
          let items ← loopItems context spec
          Acting.log spans .debug "Starting loop"
          runItems once items
      else Acting.log spans .debug "Skipping element, condition not met"

/-- How many levels of blocks a run follows: no parsed tree has more levels than elements, and
trees in which a block holds itself get some levels more. -/
def blockDepth (tree : Tree) : Nat :=
  tree.size + 1024

def runTree (context : Context) (runFile : RunFile) (spans : List String) (tree : Tree) : Run :=
  runAll (runElement context runFile tree (blockDepth tree) spans) tree.roots

/-- Reads and parses a playbook file. -/
def loadTree (context : Context) (path : FilePath) : Acting ParseError Tree := do
  let text ← Acting.because (ParseError.io path) (Acting.readText path)
  match Document.ofText context.registry text with
  | .ok tree => return tree
  | .error error => throw error

/-- Runs a playbook file inside which at most `remaining` more may be opened; the depth counts the
files that are open. -/
def runFileWithin (context : Context) : (remaining : Nat) → RunFile
  | 0, _, _ => throw (.includeDepth context.settings.includeLimit)
  | remaining + 1, spans, path => do
    if (← get).depth ≥ context.settings.includeLimit then
      throw (.includeDepth context.settings.includeLimit)
    else
      let path := context.settings.locate path
      Acting.log spans .info "Executing playbook file"
      let tree ← Acting.because .parse (loadTree context path)
      Acting.log spans .debug "Parsed playbook"
      modify fun s ↦ { s with depth := s.depth + 1 }
      let result ← Acting.attempt (runTree context (runFileWithin context remaining) spans tree)
      modify fun s ↦ { s with depth := s.depth - 1 }
      match result with
      | .ok () => return ()
      | .error error => throw error

/-- Runs a playbook file; files may be open inside each other up to the limit. -/
def runFile (context : Context) : RunFile :=
  runFileWithin context (context.settings.includeLimit + 1)

end Engine

open Engine

/-- Runs the elements of a tree. -/
def executeTree (context : Context) (tree : Tree) : Run :=
  runTree context (runFile context) [] tree

def executeText (context : Context) (text : String) : Run := do
  match Document.ofText context.registry text with
  | .ok tree => executeTree context tree
  | .error error => throw (.parse error)

def executeNode (context : Context) (node : Yaml.Node) : Run := do
  match Document.ofNode context.registry node with
  | .ok tree => executeTree context tree
  | .error error => throw (.parse error)

def executeFile (context : Context) (path : FilePath) : Run :=
  runFile context [] path

/-- Runs a file as a whole run and logs how it went. -/
def runPlaybook (context : Context) (path : FilePath) : Run := do
  Acting.log [] .info "Starting playbook run"
  match ← Acting.attempt (executeFile context path) with
  | .ok () => Acting.log [] .info "Playbook run completed"
  | .error error =>
    Acting.log [] .error "Playbook run failed"
    throw error

end Playbook
