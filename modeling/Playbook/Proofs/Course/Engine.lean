import Playbook.Proofs.Course.Basic
import Playbook.Proofs.IncludeDepth

/-!
# The courses of the engine

The engine as courses: what a file, an element, the rest of a loop, one pass of it and a task do up
to the calls that they make. There is no limit in them other than that of the settings. When the
calls that a course makes are answered by the engine, which follows files and blocks down to some
depth, the course is the engine one level further up.
-/

namespace Playbook

open Engine
open Calling (act attempt because call callAll write)

/-! ## Tasks -/

/-- Runs playbook files one after another. -/
def Task.filesCourse (site : Site) : List FilePath → Calling TaskError Unit
  | [] => return ()
  | file :: rest => do
    because (TaskError.include file) (call (.file site file))
    filesCourse site rest

/-- A task calls the engine for files alone, and tells the fields that it merges. -/
def Task.course (context : Context) (site : Site) : Task → Calling TaskError (Option Json)
  | .include files => do
    filesCourse site files
    return none
  | .tryFile path => do
    let result ← attempt (call (.file site path))
    return some (describe result)
  | .setFact config => do
    write site (.merge config)
    act ((Task.setFact config).run context site.spans fun _ ↦ return ())
  | .mergeFacts config => do
    write site (.merge config)
    act ((Task.mergeFacts config).run context site.spans fun _ ↦ return ())
  | task => act (task.run context site.spans fun _ ↦ return ())

namespace Engine

/-- Runs a task that is ready; a failure may be ignored. -/
def readyCourse (context : Context) (site : Site) (element : Element) (kind : String)
    (task : Task) : Calling ExecutionError (Option Json) := do
  act (Acting.note (.run task.kind))
  match ← attempt (task.course context site) with
  | .ok output => return output
  | .error error =>
    if element.ignoreErrors then
      act (Acting.log site.spans .warn "Task failed, ignoring error")
      return none
    else throw (.task kind error)

/-- Stores an output, and tells the name if there is one. -/
def storeCourse (site : Site) (element : Element) (output : Option Json) :
    Calling ExecutionError Unit := do
  match element.register, output with
  | some name, some value =>
    write site (.register name)
    act (store site.spans element (some value))
  | _, _ => return ()

/-- Runs the task of a resolved element. -/
def taskCourse (context : Context) (site : Site) (element : Element)
    (environment : Environment) : Calling ExecutionError Unit := do
  match element.task with
  | none => throw (.task element.displayName .missing)
  | some invocation =>
    match context.registry.find invocation.kind with
    | .error error => throw (.task invocation.kind error)
    | .ok kind =>
      act (Acting.log site.spans .info ("Running task " ++ element.displayName))
      act (Acting.note (.init kind invocation.config environment))
      match Task.init kind ⟨some invocation, environment⟩ with
      | .error error => throw (.task invocation.kind (.init invocation.kind error))
      | .ok task =>
        let output ← readyCourse context site element invocation.kind task
        storeCourse site element output

/-! ## Elements and files -/

/-- Runs an element for one binding of its loop. -/
def passCourse (context : Context) (site : Site) (tree : Tree) (slot : Slot) (element : Element) :
    Calling ExecutionError Unit := do
  let (resolved, environment) ← act (Acting.because .resolve
    (Acting.resolving context (snapshot tree slot element)))
  if resolved.isBlock then callAll (.element site tree) resolved.block
  else call (.task site resolved environment)

/-- Runs an element for the items that are left. -/
def loopCourse (site : Site) (tree : Tree) (slot : Slot) (element : Element) :
    List Json → Calling ExecutionError Unit
  | [] => return ()
  | item :: rest => do
    act (modify (·.setFact Facts.loopItem item))
    let result ← attempt (call (.pass site.looping tree slot element))
    act (modify (·.removeFact Facts.loopItem))
    match result with
    | .ok () => call (.loop site tree slot element rest)
    | .error error => throw error

def elementCourse (context : Context) (site : Site) (tree : Tree) (slot : Slot) :
    Calling ExecutionError Unit := do
  match tree.get? slot with
  | none => throw (.unknownSlot slot)
  | some element =>
    let site := site.inside element.displayName
    if ← act (holds context site.spans element.guards) then
      match element.loop with
      | none => call (.pass site tree slot element)
      | some spec =>
        let items ← act (loopItems context spec)
        act (Acting.log site.spans .debug "Starting loop")
        call (.loop site tree slot element items)
    else act (Acting.log site.spans .debug "Skipping element, condition not met")

/-- Runs a file while the depth is below the limit. -/
def fileCourse (context : Context) (site : Site) (path : FilePath) :
    Calling ExecutionError Unit := do
  if (← act get).depth ≥ context.settings.includeLimit then
    throw (.includeDepth context.settings.includeLimit)
  else
    let path := context.settings.locate path
    act (Acting.log site.spans .info "Executing playbook file")
    let tree ← act (Acting.because .parse (loadTree context path))
    act (Acting.log site.spans .debug "Parsed playbook")
    act (modify fun s ↦ { s with depth := s.depth + 1 })
    let result ← attempt (callAll (.element site tree) tree.roots)
    act (modify fun s ↦ { s with depth := s.depth - 1 })
    match result with
    | .ok () => return ()
    | .error error => throw error

end Engine

def Call.course (context : Context) : Call → Calling ExecutionError Unit
  | .file site path => fileCourse context site path
  | .element site tree slot => elementCourse context site tree slot
  | .loop site tree slot given items => loopCourse site tree slot given items
  | .pass site tree slot given => passCourse context site tree slot given
  | .task site given environment => taskCourse context site given environment

def Entry.course (context : Context) : Entry → Calling ExecutionError Unit
  | .text content => do
    match Document.ofText context.registry content with
    | .ok tree => callAll (.element .top tree) tree.roots
    | .error error => throw (.parse error)
  | .file path => call (.file .top path)
  | .playbook path => do
    act (Acting.log [] .info "Starting playbook run")
    match ← attempt (call (.file .top path)) with
    | .ok () => act (Acting.log [] .info "Playbook run completed")
    | .error error =>
      act (Acting.log [] .error "Playbook run failed")
      throw error

/-! ## Calls that the engine answers -/

/-- How far the engine follows files, and the blocks of a tree. -/
structure Reach where
  files : Nat
  blocks : Tree → Nat

namespace Reach

/-- How far the engine goes from the calls that a call makes. -/
def within (reach : Reach) : Call → Reach
  | .file .. => ⟨reach.files - 1, blockDepth⟩
  | .element .. => { reach with blocks := fun tree ↦ reach.blocks tree - 1 }
  | .loop .. | .pass .. | .task .. => reach

/-- The reach that a run starts with. -/
def start (context : Context) : Reach :=
  ⟨context.settings.includeLimit + 1, blockDepth⟩

end Reach

/-- How the engine runs files and elements with a reach. -/
def Engine.runFileFrom (context : Context) (reach : Reach) : RunFile :=
  runFileWithin context reach.files

def Engine.runElementFrom (context : Context) (reach : Reach) (tree : Tree) :
    List String → Slot → Run :=
  runElement context (runFileFrom context reach) tree (reach.blocks tree)

/-- A call as the engine runs it. -/
def Call.run (context : Context) (reach : Reach) : Call → Run
  | .file site path => runFileFrom context reach site.spans path
  | .element site tree slot => runElementFrom context reach tree site.spans slot
  | .loop site tree slot given items =>
    runItems (runOnce context (runFileFrom context reach) tree
      (runElementFrom context reach tree site.spans) site.spans slot given) items
  | .pass site tree slot given =>
    runOnce context (runFileFrom context reach) tree (runElementFrom context reach tree site.spans)
      site.spans slot given
  | .task site given environment =>
    dispatch context (runFileFrom context reach) site.spans given environment

variable {context : Context} {reach : Reach}

theorem Task.exec_filesCourse (serve : Call → Run) (site : Site) (files : List FilePath) :
    (filesCourse site files).exec serve = runFiles (fun path ↦ serve (.file site path)) files := by
  induction files with
  | nil => rfl
  | cons file rest ih =>
    rw [filesCourse, runFiles, Calling.exec_bind, Calling.exec_because, Calling.exec_call, ih]

theorem Task.course_of_isLocal {task : Task} (h : task.IsLocal) (site : Site) :
    task.course context site = act (task.run context site.spans fun _ ↦ return ()) := by
  cases task with
  | setFact | mergeFacts | «include» | tryFile => exact h.elim
  | _ => rfl

theorem Task.exec_course (serve : Call → Run) (site : Site) (task : Task) :
    (task.course context site).exec serve =
      task.run context site.spans fun path ↦ serve (.file site path) := by
  by_cases hlocal : task.IsLocal
  · rw [course_of_isLocal hlocal, Calling.exec_act]
    exact run_eq_of_isLocal hlocal context site.spans _ _
  · cases task with
    | setFact config => rfl
    | mergeFacts config => rfl
    | «include» files =>
      rw [course, run, Calling.exec_bind, exec_filesCourse]
      rfl
    | tryFile path =>
      rw [course, run, Calling.exec_bind, Calling.exec_attempt, Calling.exec_call]
      rfl
    | _ => exact (hlocal trivial).elim

namespace Engine

theorem exec_readyCourse (site : Site) (element : Element) (kind : String) (task : Task) :
    (readyCourse context site element kind task).exec (Call.run context reach) =
      runTask context (runFileFrom context reach) site.spans element kind task := by
  rw [readyCourse, runTask]
  simp only [Calling.exec_bind, Calling.exec_act, Calling.exec_attempt, Task.exec_course]
  refine bind_congr fun _ ↦ bind_congr fun result ↦ ?_
  cases result with
  | ok output => rfl
  | error error => cases element.ignoreErrors <;> rfl

theorem exec_storeCourse (serve : Call → Run) (site : Site) (element : Element)
    (output : Option Json) :
    (storeCourse site element output).exec serve = store site.spans element output := by
  unfold storeCourse store
  cases element.register with
  | none => rfl
  | some name => cases output <;> rfl

theorem exec_taskCourse (site : Site) (element : Element) (environment : Environment) :
    (taskCourse context site element environment).exec (Call.run context reach) =
      dispatch context (runFileFrom context reach) site.spans element environment := by
  rw [taskCourse, dispatch]
  cases element.task with
  | none => rfl
  | some invocation =>
    dsimp only
    cases context.registry.find invocation.kind with
    | error error => rfl
    | ok kind =>
      simp only [Calling.exec_bind, Calling.exec_act]
      refine bind_congr fun _ ↦ bind_congr fun _ ↦ ?_
      cases Task.init kind ⟨some invocation, environment⟩ with
      | error error => rfl
      | ok task => simp only [Calling.exec_bind, exec_readyCourse, exec_storeCourse]

theorem exec_passCourse (site : Site) (tree : Tree) (slot : Slot) (element : Element) :
    (passCourse context site tree slot element).exec (Call.run context reach) =
      runOnce context (runFileFrom context reach) tree
        (runElementFrom context reach tree site.spans) site.spans slot element := by
  rw [passCourse, runOnce]
  simp only [Calling.exec_bind, Calling.exec_act]
  refine bind_congr fun found ↦ ?_
  cases found.1.isBlock with
  | true => exact Calling.exec_callAll _ _ _
  | false => rfl

theorem exec_loopCourse (site : Site) (tree : Tree) (slot : Slot) (element : Element)
    (items : List Json) :
    (loopCourse site tree slot element items).exec (Call.run context reach) =
      (Call.loop site tree slot element items).run context reach := by
  cases items with
  | nil => rfl
  | cons item rest =>
    rw [loopCourse, Call.run, runItems]
    simp only [Calling.exec_bind, Calling.exec_act, Calling.exec_attempt, Calling.exec_call]
    refine bind_congr fun _ ↦ bind_congr fun result ↦ bind_congr fun _ ↦ ?_
    cases result <;> rfl

/-- An element follows its block one level less far. -/
theorem exec_elementCourse (site : Site) {tree : Tree} (hreach : 0 < reach.blocks tree)
    (slot : Slot) :
    (elementCourse context site tree slot).exec
        (Call.run context { reach with blocks := fun tree ↦ reach.blocks tree - 1 }) =
      runElementFrom context reach tree site.spans slot := by
  obtain ⟨depth, hdepth⟩ : ∃ depth, reach.blocks tree = depth + 1 :=
    ⟨reach.blocks tree - 1, by omega⟩
  rw [elementCourse, runElementFrom, hdepth, runElement]
  cases tree.get? slot with
  | none => rfl
  | some element =>
    simp only [Calling.exec_bind, Calling.exec_act]
    refine bind_congr fun passed ↦ ?_
    cases passed with
    | false => rfl
    | true =>
      simp only [if_true]
      cases element.loop with
      | none =>
        simp only [Calling.exec_call, Call.run, runElementFrom, hdepth]
        rfl
      | some spec =>
        simp only [Calling.exec_bind, Calling.exec_act, Calling.exec_call, Call.run, runElementFrom,
          hdepth]
        rfl

theorem exec_roots (site : Site) (tree : Tree) (files : Nat) :
    (callAll (.element site tree) tree.roots).exec (Call.run context ⟨files, blockDepth⟩) =
      runTree context (runFileWithin context files) site.spans tree := by
  rw [Calling.exec_callAll]
  simp only [Call.run, runElementFrom, runFileFrom, runTree]

/-- While files may be opened, a file is run with one file less to open. -/
theorem exec_fileCourse (site : Site) (path : FilePath) {s : Session}
    (hreach : context.settings.includeLimit < s.depth + reach.files) :
    ((fileCourse context site path).exec (Call.run context ⟨reach.files - 1, blockDepth⟩)).run s =
      (runFileFrom context reach site.spans path).run s := by
  have hget : (get : Acting ExecutionError Session).run s = (.ok s, s) := rfl
  rw [fileCourse, Calling.exec_bind, Calling.exec_act, run_bind_of_ok hget]
  by_cases hfull : context.settings.includeLimit ≤ s.depth
  · rw [runFileFrom, runFileWithin_full hfull]
    simp only [ge_iff_le, hfull, if_true]
    rfl
  · obtain ⟨remaining, hremaining⟩ : ∃ remaining, reach.files = remaining + 1 :=
      ⟨reach.files - 1, by omega⟩
    rw [runFileFrom, hremaining, runFileWithin_succ, run_bind_of_ok hget, Nat.add_sub_cancel]
    simp only [ge_iff_le, hfull, if_false, withFile, Calling.exec_bind, Calling.exec_act,
      Calling.exec_attempt, exec_roots]
    refine congrArg (fun x : Run ↦ x.run s) ?_
    refine bind_congr fun _ ↦ bind_congr fun tree ↦ bind_congr fun _ ↦ bind_congr fun _ ↦ ?_
    refine bind_congr fun result ↦ bind_congr fun _ ↦ ?_
    cases result <;> rfl

end Engine

/-- A run is its course when the engine answers the calls with all the reach that it has. -/
theorem Entry.exec_course (context : Context) (entry : Entry) :
    (entry.course context).exec (Call.run context (.start context)) = entry.execute context := by
  cases entry with
  | text content =>
    rw [Entry.course, Entry.execute, executeText]
    cases Document.ofText context.registry content with
    | error error => rfl
    | ok tree => exact exec_roots _ _ _
  | file path => rfl
  | playbook path =>
    rw [Entry.course, Entry.execute, runPlaybook]
    simp only [Calling.exec_bind, Calling.exec_act, Calling.exec_attempt, Calling.exec_call]
    refine bind_congr fun _ ↦ bind_congr fun result ↦ ?_
    cases result <;> rfl

end Playbook
