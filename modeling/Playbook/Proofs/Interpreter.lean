import Playbook.Engine
import Playbook.Proofs.Outline.Reading

/-!
# An interpreter of outlines

What a playbook does, said by recursion on elements inside elements: no slots, no links to parents
and no record of what was met. The variables of the blocks around an element are handed down to it
as they are written, the outermost first, and are resolved anew for every task.
-/

namespace Playbook

namespace Acting

/-- Asks the resolver for a string, with the facts as they are now. -/
def ask (context : Context) (text : String) : Acting ResolveError String := do
  let s ← get
  set { s with journal := { s.journal with calls := text :: s.journal.calls } }
  match context.resolver text s.facts with
  | .ok resolved => return resolved
  | .error error => throw error

end Acting

/-! ## Asking for every string of a value -/

mutual

def Json.ask (context : Context) : Json → Acting ResolveError Json
  | .str text => return .str (← Acting.ask context text)
  | .arr items => return .arr (← Json.askItems context items)
  | .obj fields => return .obj (← Json.askFields context fields)
  | other => return other

def Json.askItems (context : Context) : List Json → Acting ResolveError (List Json)
  | [] => return []
  | item :: rest => return (← item.ask context) :: (← Json.askItems context rest)

def Json.askFields (context : Context) :
    List (String × Json) → Acting ResolveError (List (String × Json))
  | [] => return []
  | (key, value) :: rest => return (key, ← value.ask context) :: (← Json.askFields context rest)

end

def LoopSpec.ask (context : Context) : LoopSpec → Acting ResolveError LoopSpec
  | .var template => return .var (← Acting.ask context template)
  | .items values => return .items (← Json.askItems context values)

def Invocation.ask (context : Context) (task : Invocation) : Acting ResolveError Invocation :=
  return { task with config := ← Json.askFields context task.config }

def Environment.ask (context : Context) (environment : Environment) :
    Acting ResolveError (List (String × String)) :=
  environment.entries.mapM fun (name, text) ↦ return (name, ← Acting.ask context text)

/-- Asks for the strings of an element: name, guards, registered name, variables, loop, task. -/
def Heading.ask (context : Context) (heading : Heading) : Acting ResolveError Heading := do
  let name ← heading.name.mapM (Acting.ask context)
  let guards ← heading.guards.mapM (Acting.ask context)
  let register ← heading.register.mapM (Acting.ask context)
  let own ← heading.environment.ask context
  let loop ← heading.loop.mapM (LoopSpec.ask context)
  let task ← heading.task.mapM (Invocation.ask context)
  return { heading with name, guards, register, environment := .ofList own, loop, task }

namespace Interpreter

open Engine (Run RunFile)

/-- Puts the variables of blocks over each other, the outermost first. -/
def inherit (context : Context) (inherited : Environment) :
    List Environment → Acting ResolveError Environment
  | [] => return inherited
  | environment :: rest => do
    let own ← environment.ask context
    inherit context (inherited.insertMany own) rest

/-- Asks for guards one by one, up to the first that fails or gives `false`. -/
def passes (context : Context) (spans : List String) :
    List String → Acting ExecutionError Bool
  | [] => return true
  | guard :: rest => do
    match ← Acting.attempt (Acting.ask context guard) with
    | .error _ =>
      Acting.log spans .warn "Condition failed to resolve, skipping element"
      return false
    | .ok answer => if answer = "false" then return false else passes context spans rest

def items (context : Context) (loop : LoopSpec) : Acting ExecutionError (List Json) := do
  let resolved ← Acting.because .resolve (loop.ask context)
  match resolved with
  | .items values => return values
  | .var rendered =>
    match Json.parseList rendered with
    | .ok values => return values
    | .error reason => throw (.loopNotArray rendered reason)

/-- Binds every item in turn. The binding ends before an error goes on. -/
def forEach (run : Run) : List Json → Run
  | [] => return ()
  | item :: rest => do
    modify (·.setFact "item" item)
    let result ← Acting.attempt run
    modify (·.removeFact "item")
    match result with
    | .error error => throw error
    | .ok () => forEach run rest

/-- Makes and runs a task whose strings are resolved. Only an error of running may be ignored. -/
def perform (context : Context) (runFile : RunFile) (spans : List String) (heading : Heading)
    (environment : Environment) : Run := do
  match heading.task with
  | none => throw (.task heading.displayName .missing)
  | some invocation =>
    match context.registry.find invocation.kind with
    | .error error => throw (.task invocation.kind error)
    | .ok kind =>
      Acting.log spans .info ("Running task " ++ heading.displayName)
      Acting.note (.init kind invocation.config environment)
      match Task.init kind ⟨some invocation, environment⟩ with
      | .error error => throw (.task invocation.kind (.init invocation.kind error))
      | .ok task =>
        Acting.note (.run task.kind)
        let result ← Acting.attempt (task.run context spans (runFile spans))
        match result, heading.register with
        | .ok (some output), some name =>
          Acting.log spans .debug "Registering task output"
          modify (·.setFact name output)
        | .ok _, _ => return ()
        | .error error, _ =>
          if heading.ignoreErrors then Acting.log spans .warn "Task failed, ignoring error"
          else throw (.task invocation.kind error)

/-- Runs an element once. All its strings are asked for first, also those of a block; then a block
runs what is inside, and a task gets the variables around it with its own over them. -/
def single (context : Context) (runFile : RunFile) (spans : List String)
    (outer : List Environment) (heading : Heading) (inside : Option Run) : Run := do
  let resolved ← Acting.because .resolve (heading.ask context)
  match inside with
  | some run => run
  | none =>
    let inherited ← Acting.because .resolve (inherit context ∅ outer)
    perform context runFile spans resolved (inherited.insertMany resolved.environment.entries)

/-- Runs an element whose guards pass, for every item if it has a loop. -/
def element (context : Context) (runFile : RunFile) (spans : List String)
    (outer : List Environment) (heading : Heading) (inside : Option Run) : Run := do
  if ← passes context spans heading.guards then
    match heading.loop with
    | none => single context runFile spans outer heading inside
    | some loop =>
      let values ← items context loop
      Acting.log spans .debug "Starting loop"
      forEach (single context runFile spans outer heading inside) values
  else Acting.log spans .debug "Skipping element, condition not met"

mutual

def interpret (context : Context) (runFile : RunFile) (spans : List String)
    (outer : List Environment) : Outline → Run
  | .element heading _ children =>
    let spans := spans ++ [heading.displayName]
    let block := interpretAll context runFile spans (outer ++ [heading.environment]) children
    element context runFile spans outer heading (if children.isEmpty then none else some block)

def interpretAll (context : Context) (runFile : RunFile) (spans : List String)
    (outer : List Environment) : List Outline → Run
  | [] => return ()
  | outline :: rest => do
    interpret context runFile spans outer outline
    interpretAll context runFile spans outer rest

end

/-- Reads the outlines of a playbook file. -/
def load (context : Context) (path : FilePath) : Acting ParseError (List Outline) := do
  let text ← Acting.because (ParseError.io path) (Acting.readText path)
  match Outline.ofText context.registry text with
  | .ok outlines => return outlines
  | .error error => throw error

/-- Interprets a playbook file inside which at most `remaining` more may be opened. -/
def interpretFileWithin (context : Context) : (remaining : Nat) → RunFile
  | 0, _, _ => throw (.includeDepth context.settings.includeLimit)
  | remaining + 1, spans, path => do
    if (← get).depth ≥ context.settings.includeLimit then
      throw (.includeDepth context.settings.includeLimit)
    else
      let path := context.settings.locate path
      Acting.log spans .info "Executing playbook file"
      let outlines ← Acting.because .parse (load context path)
      Acting.log spans .debug "Parsed playbook"
      modify fun s ↦ { s with depth := s.depth + 1 }
      let result ← Acting.attempt
        (interpretAll context (interpretFileWithin context remaining) spans [] outlines)
      modify fun s ↦ { s with depth := s.depth - 1 }
      match result with
      | .ok () => return ()
      | .error error => throw error

def interpretFile (context : Context) : RunFile :=
  interpretFileWithin context (context.settings.includeLimit + 1)

/-- Interprets the elements of a playbook text, in which files may be included. -/
def interpretText (context : Context) (text : String) : Run := do
  match Outline.ofText context.registry text with
  | .ok outlines => interpretAll context (interpretFile context) [] [] outlines
  | .error error => throw (.parse error)

end Interpreter

end Playbook
