import Playbook.Proofs.Script.Basic
import Playbook.Proofs.Watch

/-!
# The engine in steps

The engine as scripts, down to single looks at the session and single changes of it. Undisturbed,
each script is the function of the engine that it stands for.
-/

namespace Playbook

open Scripting (alone asked attempt because step work)

/-! ## Tasks -/

namespace Task

def templateScript (context : Context) (spans : List String) (config : TemplateConfig) :
    Scripting TaskError (Option Json) := do
  let text ← work (Acting.because (fileFault "read" config.source)
    (Acting.readFor .template config.source))
  let rendered ← work (Acting.because (fun error ↦ TaskError.template error.text)
    (Acting.resolving context (Resolving.text · text)))
  work (Acting.because (fileFault "write" config.target)
    (Acting.changeFiles (·.write config.target (Text.Utf8.encode rendered))))
  work (Acting.because (fun fault ↦ TaskError.io fault.message)
    (Acting.changeFiles (·.setMode config.target config.mode)))
  work (Acting.log spans .info "Rendered template")
  return some (.str rendered)

def shellScript (context : Context) (spans : List String) (config : ShellConfig)
    (environment : Environment) : Scripting TaskError (Option Json) := do
  if ← asked then throw .cancelled
  work (Acting.log spans .debug "Executing shell command")
  let output ← step .spawns
    (execute context config.command config.shell config.directory environment)
  work (Acting.log spans .info "Shell command finished")
  return some (.str output)

/-- Runs playbook files one after another. -/
def filesScript (runFile : FilePath → Scripting ExecutionError Unit) :
    List FilePath → Scripting TaskError Unit
  | [] => return ()
  | file :: rest => do
    because (TaskError.include file) (runFile file)
    filesScript runFile rest

def script (context : Context) (spans : List String)
    (runFile : FilePath → Scripting ExecutionError Unit) : Task → Scripting TaskError (Option Json)
  | .shell none => throw (.configuration "shell task not initialized")
  | .shell (some (config, environment)) => shellScript context spans config environment
  | .template none => throw (.configuration "template task not initialized")
  | .template (some config) => templateScript context spans config
  | .setFact config => do
    work (Acting.log spans .debug "Setting facts")
    work (modify (·.mergeFacts config))
    return none
  | .include files => do
    filesScript runFile files
    return none
  | .cancelled => return some (.bool (← asked))
  | .tryFile path => do
    let result ← attempt (runFile path)
    return some (describe result)
  | task => work (task.run context spans fun _ ↦ return ())

end Task

namespace Engine

/-- Runs a playbook file, in steps, for the elements whose names are given. -/
abbrev FileScript := (spans : List String) → FilePath → Scripting ExecutionError Unit

/-! ## Elements -/

def holdsScript (context : Context) (spans : List String) :
    List String → Scripting ExecutionError Bool
  | [] => return true
  | guard :: rest => do
    match ← attempt (work (Acting.resolving context (Resolving.text · guard))) with
    | .ok "false" => return false
    | .ok _ => holdsScript context spans rest
    | .error _ =>
      work (Acting.log spans .warn "Condition failed to resolve, skipping element")
      return false

def loopItemsScript (context : Context) (spec : LoopSpec) :
    Scripting ExecutionError (List Json) := do
  match ← because .resolve (work (Acting.resolving context (spec.resolve ·))) with
  | .items values => return values
  | .var rendered =>
    match Json.parseList rendered with
    | .ok values => return values
    | .error reason => throw (.loopNotArray rendered reason)

/-- The run of a task, from its begin to its end. -/
def taskScript (context : Context)
    (runFile : FileScript) (spans : List String)
    (task : Task) : Scripting ExecutionError (Except TaskError (Option Json)) := do
  step (.begins spans task) (Acting.note (.run task.kind))
  let result ← attempt (task.script context spans (runFile spans))
  step (.ends result) (return ())
  return result

def runTaskScript (context : Context)
    (runFile : FileScript) (spans : List String)
    (element : Element) (kind : String) (task : Task) :
    Scripting ExecutionError (Option Json) := do
  match ← taskScript context runFile spans task with
  | .ok output => return output
  | .error error =>
    if element.ignoreErrors then
      work (Acting.log spans .warn "Task failed, ignoring error")
      return none
    else throw (.task kind error)

def storeScript (spans : List String) (element : Element) (output : Option Json) :
    Scripting ExecutionError Unit := do
  match element.register, output with
  | some name, some value =>
    work (Acting.log spans .debug "Registering task output")
    work (modify (·.setFact name value))
  | _, _ => return ()

def dispatchScript (context : Context)
    (runFile : FileScript) (spans : List String)
    (element : Element) (environment : Environment) : Scripting ExecutionError Unit := do
  match element.task with
  | none => throw (.task element.displayName .missing)
  | some invocation =>
    match context.registry.find invocation.kind with
    | .error error => throw (.task invocation.kind error)
    | .ok kind =>
      work (Acting.log spans .info ("Running task " ++ element.displayName))
      work (Acting.note (.init kind invocation.config environment))
      match Task.init kind ⟨some invocation, environment⟩ with
      | .error error => throw (.task invocation.kind (.init invocation.kind error))
      | .ok task =>
        let output ← runTaskScript context runFile spans element invocation.kind task
        storeScript spans element output

def allScript (run : Slot → Scripting ExecutionError Unit) :
    List Slot → Scripting ExecutionError Unit
  | [] => return ()
  | slot :: rest => do
    run slot
    allScript run rest

def itemsScript (once : Scripting ExecutionError Unit) :
    List Json → Scripting ExecutionError Unit
  | [] => return ()
  | item :: rest => do
    work (modify (·.setFact Facts.loopItem item))
    let result ← attempt once
    work (modify (·.removeFact Facts.loopItem))
    match result with
    | .ok () => itemsScript once rest
    | .error error => throw error

def onceScript (context : Context)
    (runFile : FileScript) (tree : Tree)
    (child : Slot → Scripting ExecutionError Unit) (spans : List String) (slot : Slot)
    (element : Element) : Scripting ExecutionError Unit := do
  let (resolved, environment) ← because .resolve
    (work (Acting.resolving context (snapshot tree slot element)))
  if resolved.isBlock then allScript child resolved.block
  else dispatchScript context runFile spans resolved environment

def elementScript (context : Context)
    (runFile : FileScript) (tree : Tree) :
    (depth : Nat) → (spans : List String) → Slot → Scripting ExecutionError Unit
  | 0, _, _ => throw .blockDepth
  | depth + 1, spans, slot => do
    match tree.get? slot with
    | none => throw (.unknownSlot slot)
    | some element =>
      let spans := spans ++ [element.displayName]
      if ← holdsScript context spans element.guards then
        let once := onceScript context runFile tree
          (elementScript context runFile tree depth spans) spans slot element
        match element.loop with
        | none => once
        | some spec =>
          let items ← loopItemsScript context spec
          work (Acting.log spans .debug "Starting loop")
          itemsScript once items
      else work (Acting.log spans .debug "Skipping element, condition not met")

/-! ## Files -/

def treeScript (context : Context)
    (runFile : FileScript) (spans : List String)
    (tree : Tree) : Scripting ExecutionError Unit :=
  allScript (elementScript context runFile tree (blockDepth tree) spans) tree.roots

def loadScript (context : Context) (path : FilePath) : Scripting ParseError Tree := do
  let text ← because (ParseError.io path) (work (Acting.readText path))
  match Document.ofText context.registry text with
  | .ok tree => return tree
  | .error error => throw error

def openScript (context : Context) (spans : List String) (path : FilePath)
    (inside : Tree → Scripting ExecutionError Unit) : Scripting ExecutionError Unit := do
  let path := context.settings.locate path
  work (Acting.log spans .info "Executing playbook file")
  let tree ← because .parse (loadScript context path)
  work (Acting.log spans .debug "Parsed playbook")
  work (modify fun s ↦ { s with depth := s.depth + 1 })
  let result ← attempt (inside tree)
  work (modify fun s ↦ { s with depth := s.depth - 1 })
  match result with
  | .ok () => return ()
  | .error error => throw error

def fileScript (context : Context) :
    (remaining : Nat) → FileScript
  | 0, _, _ => throw (.includeDepth context.settings.includeLimit)
  | remaining + 1, spans, path => do
    if (← work do return (← get).depth) ≥ context.settings.includeLimit then
      throw (.includeDepth context.settings.includeLimit)
    else openScript context spans path (treeScript context (fileScript context remaining) spans)

end Engine

open Engine

/-- A run in steps. -/
def Entry.script (context : Context) : Entry → Scripting ExecutionError Unit
  | .text content =>
    match Document.ofText context.registry content with
    | .ok tree =>
      treeScript context (fileScript context (context.settings.includeLimit + 1)) [] tree
    | .error error => throw (.parse error)
  | .file path => fileScript context (context.settings.includeLimit + 1) [] path
  | .playbook path => do
    work (Acting.log [] .info "Starting playbook run")
    match ← attempt (fileScript context (context.settings.includeLimit + 1) [] path) with
    | .ok () => work (Acting.log [] .info "Playbook run completed")
    | .error error =>
      work (Acting.log [] .error "Playbook run failed")
      throw error

/-! ## Undisturbed, the steps are the engine -/

namespace Task

theorem alone_shellScript (context : Context) (spans : List String) (config : ShellConfig)
    (environment : Environment) :
    alone (shellScript context spans config environment) =
      runShell context spans config environment := by
  have hasked : alone (asked : Scripting TaskError Bool) = do return (← get).cancelled := rfl
  rw [shellScript, runShell, Scripting.alone_bind, hasked, bind_assoc]
  apply bind_congr
  intro s
  rw [pure_bind]
  cases s.cancelled with
  | true => rfl
  | false =>
    simp only [Bool.false_eq_true, if_false, Scripting.alone_bind, Scripting.alone_work,
      Scripting.alone_step]
    rfl

theorem alone_templateScript (context : Context) (spans : List String) (config : TemplateConfig) :
    alone (templateScript context spans config) = runTemplate context spans config := by
  rw [templateScript, runTemplate]
  simp only [Scripting.alone_bind, Scripting.alone_work]
  rfl

theorem alone_filesScript (file : FilePath → Scripting ExecutionError Unit)
    (files : List FilePath) :
    alone (filesScript file files) = runFiles (fun path ↦ alone (file path)) files := by
  induction files with
  | nil => rfl
  | cons path rest ih =>
    rw [filesScript, Scripting.alone_bind, Scripting.alone_because, runFiles, ih]

theorem alone_script (context : Context) (spans : List String)
    (file : FilePath → Scripting ExecutionError Unit) (task : Task) :
    alone (task.script context spans file) =
      task.run context spans fun path ↦ alone (file path) := by
  cases task with
  | shell told =>
    cases told with
    | none => rfl
    | some given => exact alone_shellScript context spans given.1 given.2
  | template told =>
    cases told with
    | none => rfl
    | some config => exact alone_templateScript context spans config
  | «include» files =>
    rw [script, run, Scripting.alone_bind, alone_filesScript]
    rfl
  | tryFile path =>
    rw [script, run, Scripting.alone_bind, Scripting.alone_attempt]
    rfl
  | _ => rfl

end Task

namespace Engine

variable {context : Context} {file : FileScript} {runFile : RunFile}

/-- Both run files in the same way. -/
def Plays (file : FileScript) (runFile : RunFile) : Prop :=
  ∀ spans path, alone (file spans path) = runFile spans path

theorem alone_holdsScript (context : Context) (spans guards : List String) :
    alone (holdsScript context spans guards) = holds context spans guards := by
  induction guards with
  | nil => rfl
  | cons guard rest ih =>
    rw [holdsScript, holds, Scripting.alone_bind, Scripting.alone_attempt, Scripting.alone_work]
    apply bind_congr
    intro result
    cases result with
    | error error => rfl
    | ok answer =>
      by_cases hfalse : answer = "false"
      · subst hfalse
        rfl
      · simp only
        exact ih

theorem alone_loopItemsScript (context : Context) (spec : LoopSpec) :
    alone (loopItemsScript context spec) = loopItems context spec := by
  rw [loopItemsScript, loopItems, Scripting.alone_bind, Scripting.alone_because,
    Scripting.alone_work]
  apply bind_congr
  intro resolved
  cases resolved with
  | items values => rfl
  | var rendered =>
    dsimp only
    cases Json.parseList rendered <;> rfl

theorem alone_runTaskScript (h : Plays file runFile) (spans : List String) (element : Element)
    (kind : String) (task : Task) :
    alone (runTaskScript context file spans element kind task) =
      runTask context runFile spans element kind task := by
  have hfile : (fun path ↦ alone (file spans path)) = runFile spans := funext (h spans)
  have htask : alone (taskScript context file spans task) =
      Acting.note (.run task.kind) >>= fun _ ↦
        Acting.attempt (task.run context spans (runFile spans)) := by
    simp only [taskScript, Scripting.alone_bind, Scripting.alone_step, Scripting.alone_attempt,
      Task.alone_script, hfile]
    rfl
  rw [runTaskScript, runTask, Scripting.alone_bind, htask, bind_assoc]
  apply bind_congr
  intro _
  apply bind_congr
  intro result
  cases result with
  | ok output => rfl
  | error error => cases element.ignoreErrors <;> rfl

theorem alone_storeScript (spans : List String) (element : Element) (output : Option Json) :
    alone (storeScript spans element output) = store spans element output := by
  unfold storeScript store
  cases element.register with
  | none => rfl
  | some name => cases output <;> rfl

theorem alone_dispatchScript (h : Plays file runFile) (spans : List String) (element : Element)
    (environment : Environment) :
    alone (dispatchScript context file spans element environment) =
      dispatch context runFile spans element environment := by
  rw [dispatchScript, dispatch]
  cases element.task with
  | none => rfl
  | some invocation =>
    dsimp only
    cases context.registry.find invocation.kind with
    | error error => rfl
    | ok kind =>
      simp only [Scripting.alone_bind, Scripting.alone_work]
      apply bind_congr
      intro _
      apply bind_congr
      intro _
      cases Task.init kind ⟨some invocation, environment⟩ with
      | error error => rfl
      | ok task => simp only [Scripting.alone_bind, alone_runTaskScript h, alone_storeScript]

theorem alone_allScript (run : Slot → Scripting ExecutionError Unit) (slots : List Slot) :
    alone (allScript run slots) = runAll (fun slot ↦ alone (run slot)) slots := by
  induction slots with
  | nil => rfl
  | cons slot rest ih => rw [allScript, Scripting.alone_bind, runAll, ih]

theorem alone_itemsScript (once : Scripting ExecutionError Unit) (items : List Json) :
    alone (itemsScript once items) = runItems (alone once) items := by
  induction items with
  | nil => rfl
  | cons item rest ih =>
    rw [itemsScript, runItems]
    simp only [Scripting.alone_bind, Scripting.alone_work, Scripting.alone_attempt]
    apply bind_congr
    intro _
    apply bind_congr
    intro result
    apply bind_congr
    intro _
    cases result with
    | ok => exact ih
    | error error => rfl

theorem alone_onceScript (h : Plays file runFile) (tree : Tree)
    (child : Slot → Scripting ExecutionError Unit) (spans : List String) (slot : Slot)
    (element : Element) :
    alone (onceScript context file tree child spans slot element) =
      runOnce context runFile tree (fun slot ↦ alone (child slot)) spans slot element := by
  rw [onceScript, runOnce, Scripting.alone_bind, Scripting.alone_because, Scripting.alone_work]
  apply bind_congr
  intro found
  dsimp only
  cases found.1.isBlock with
  | true => exact alone_allScript _ _
  | false => exact alone_dispatchScript h _ _ _

theorem alone_elementScript (h : Plays file runFile) (tree : Tree) (depth : Nat)
    (spans : List String) (slot : Slot) :
    alone (elementScript context file tree depth spans slot) =
      runElement context runFile tree depth spans slot := by
  induction depth generalizing spans slot with
  | zero => rfl
  | succ depth ih =>
    rw [elementScript, runElement]
    cases tree.get? slot with
    | none => rfl
    | some element =>
      have honce : alone (onceScript context file tree
          (elementScript context file tree depth (spans ++ [element.displayName]))
          (spans ++ [element.displayName]) slot element) = _ := alone_onceScript h ..
      simp only [ih] at honce
      dsimp only
      rw [Scripting.alone_bind, alone_holdsScript]
      apply bind_congr
      intro passed
      cases passed with
      | false => rfl
      | true =>
        simp only [if_true]
        cases element.loop with
        | none => exact honce
        | some spec =>
          simp only [Scripting.alone_bind, Scripting.alone_work, alone_loopItemsScript,
            alone_itemsScript, honce]

theorem alone_treeScript (h : Plays file runFile) (spans : List String) (tree : Tree) :
    alone (treeScript context file spans tree) = runTree context runFile spans tree := by
  rw [treeScript, runTree, alone_allScript]
  simp only [alone_elementScript h]

theorem alone_loadScript (context : Context) (path : FilePath) :
    alone (loadScript context path) = loadTree context path := by
  rw [loadScript, loadTree, Scripting.alone_bind, Scripting.alone_because, Scripting.alone_work]
  apply bind_congr
  intro text
  cases Document.ofText context.registry text <;> rfl

theorem alone_openScript {inside : Tree → Scripting ExecutionError Unit} {run : Tree → Run}
    (h : ∀ tree, alone (inside tree) = run tree) (spans : List String) (path : FilePath) :
    alone (openScript context spans path inside) = withFile context spans path run := by
  rw [openScript, withFile]
  simp only [Scripting.alone_bind, Scripting.alone_work, Scripting.alone_because,
    Scripting.alone_attempt, alone_loadScript, h]
  apply bind_congr
  intro _
  apply bind_congr
  intro tree
  apply bind_congr
  intro _
  apply bind_congr
  intro _
  apply bind_congr
  intro result
  apply bind_congr
  intro _
  cases result <;> rfl

theorem alone_fileScript (context : Context) (remaining : Nat) :
    Plays (fileScript context remaining) (runFileWithin context remaining) := by
  intro spans path
  induction remaining generalizing spans path with
  | zero => rfl
  | succ remaining ih =>
    have hopen : alone (openScript context spans path
          (treeScript context (fileScript context remaining) spans)) = _ :=
      alone_openScript (alone_treeScript ih spans) spans path
    rw [fileScript, runFileWithin_succ, Scripting.alone_bind, Scripting.alone_work, bind_assoc]
    apply bind_congr
    intro s
    rw [pure_bind]
    split
    · rfl
    · exact hopen

end Engine

/-- A run in steps that nobody disturbs is a run of the engine. -/
theorem Entry.alone_script (context : Context) (entry : Entry) :
    alone (entry.script context) = entry.execute context := by
  have hfile := alone_fileScript context (context.settings.includeLimit + 1)
  cases entry with
  | text content =>
    rw [Entry.script, Entry.execute, executeText]
    cases Document.ofText context.registry content with
    | error error => rfl
    | ok tree => exact alone_treeScript hfile [] tree
  | file path => exact hfile [] path
  | playbook path =>
    rw [Entry.script, Entry.execute, runPlaybook, Scripting.alone_bind, Scripting.alone_work]
    apply bind_congr
    intro _
    rw [Scripting.alone_bind, Scripting.alone_attempt, hfile]
    apply bind_congr
    intro result
    cases result <;> rfl

end Playbook
