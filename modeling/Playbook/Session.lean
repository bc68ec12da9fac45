import Playbook.FileSystem
import Playbook.Registry
import Playbook.Resolution
import Playbook.Settings

/-!
# Sessions

A session is what runs of playbooks work on: the facts, how many included files are open, whether
the run was cancelled, and the files. It keeps a journal of what happened, the latest entry first.
-/

namespace Playbook

inductive Level where
  | debug
  | info
  | warn
  | error
  deriving DecidableEq, Repr

def Level.name : Level → String
  | .debug => "DEBUG"
  | .info => "INFO"
  | .warn => "WARN"
  | .error => "ERROR"

/-- A line of the log, with the names of the elements around it, outermost first. -/
structure LogEntry where
  level : Level
  message : String
  spans : List String
  deriving DecidableEq, Repr

/-- A step of a task. -/
inductive TaskEvent where
  | init (kind : TaskKind) (config : Config) (environment : Environment)
  | run (kind : TaskKind)

def TaskEvent.kind : TaskEvent → TaskKind
  | .init kind _ _ => kind
  | .run kind => kind

/-- What a file is read for. -/
inductive Purpose where
  | playbook
  | template
  deriving DecidableEq, Repr

/-- A file that was read, and what came of it. -/
structure Reading where
  purpose : Purpose
  path : FilePath
  content : Except FileError String

/-- What happened in a session, the latest first: what the resolver was asked, the steps of tasks,
the log, and which files were read. -/
structure Journal where
  calls : List String
  events : List TaskEvent
  log : List LogEntry
  reads : List Reading

def Journal.empty : Journal := ⟨[], [], [], []⟩

structure Session where
  facts : Facts
  depth : Nat
  cancelled : Bool
  files : FileSystem
  journal : Journal

/-- What stays the same during a run. -/
structure Context where
  settings : Settings
  registry : Registry
  resolver : Resolver
  /-- The variables of the process that runs playbooks. -/
  environment : Environment

namespace Session

/-- A session over some files whose facts are the variables of the settings. -/
def start (settings : Settings) (files : FileSystem) : Session :=
  ⟨settings.facts, 0, false, files, .empty⟩

def setFact (s : Session) (name : String) (value : Json) : Session :=
  { s with facts := s.facts.insert name value }

def removeFact (s : Session) (name : String) : Session :=
  { s with facts := s.facts.erase name }

def mergeFacts (s : Session) (fields : List (String × Json)) : Session :=
  { s with facts := Facts.merge s.facts fields }

def cancel (s : Session) : Session :=
  { s with cancelled := true }

def logged (s : Session) (entry : LogEntry) : Session :=
  { s with journal := { s.journal with log := entry :: s.journal.log } }

def noted (s : Session) (event : TaskEvent) : Session :=
  { s with journal := { s.journal with events := event :: s.journal.events } }

def clearJournal (s : Session) : Session :=
  { s with journal := .empty }

/-- The steps of traced tasks, the earliest first. -/
def trace (s : Session) : List TaskEvent :=
  (s.journal.events.filter (·.kind.isTraced)).reverse

end Session

/-- The executor of a session as it is shown. -/
def Context.describe (context : Context) (s : Session) : String :=
  "PlaybookExecutor \x7b config: " ++ context.settings.describe ++ ", registry: " ++
    context.registry.describe ++ ", facts: Facts \x7b variables: " ++ s.facts.describe ++
    " \x7d, depth: " ++ toString s.depth ++ ", .. \x7d"

/-- A computation on a session that may fail; what it did before stays. -/
abbrev Acting (ε : Type) := ExceptT ε (StateM Session)

namespace Acting

variable {ε : Type}

def log (spans : List String) (level : Level) (message : String) : Acting ε Unit :=
  modify (·.logged ⟨level, message, spans⟩)

def note (event : TaskEvent) : Acting ε Unit :=
  modify (·.noted event)

/-- Runs a computation and gives its result instead of failing. -/
def attempt {ε' α : Type} (action : Acting ε α) : Acting ε' (Except ε α) :=
  fun s ↦ let (result, s) := action.run s; (.ok result, s)

/-- Resolves something against the current facts. -/
def resolving {α : Type} (context : Context) (resolve : Scope → Resolving α) :
    Acting ResolveError α := do
  let s ← get
  let scope : Scope := ⟨context.resolver, s.facts⟩
  let (result, r) := (resolve scope).run.run (.start s.journal.calls)
  set { s with journal := { s.journal with calls := r.calls } }
  match result with
  | .ok value => return value
  | .error error => throw error

/-- Makes the errors of a computation causes of other errors. -/
def because {ε' α : Type} (wrap : ε → ε') (action : Acting ε α) : Acting ε' α :=
  fun s ↦
    match action.run s with
    | (.ok value, s) => (.ok value, s)
    | (.error error, s) => (.error (wrap error), s)

/-- Reads the text of a file. -/
def readFor (purpose : Purpose) (path : FilePath) : Acting FileError String := do
  let s ← get
  let content := s.files.readText path
  set { s with journal := { s.journal with reads := ⟨purpose, path, content⟩ :: s.journal.reads } }
  match content with
  | .ok text => return text
  | .error fault => throw fault

/-- Reads the text of a playbook. -/
def readText (path : FilePath) : Acting FileError String :=
  readFor .playbook path

/-- Changes the files, unless that fails. -/
def changeFiles (change : FileSystem → Except FileError FileSystem) : Acting FileError Unit := do
  let s ← get
  match change s.files with
  | .ok files => set { s with files }
  | .error fault => throw fault

end Acting

end Playbook
