import Playbook.FilePath

/-!
# Arguments of the command line

A command is chosen by its name; options may stand before and after the file it works on. Two
dashes end the options. What does not fit is refused as a whole.
-/

namespace Playbook.CommandLine

structure RunOptions where
  file : FilePath
  /-- The directory from which relative paths are seen, if it is given. -/
  baseDirectory : Option FilePath
  /-- Settings of single variables, in the order they were given. -/
  settings : List String
  /-- The text of an object of variables. -/
  object : Option String
  printFacts : Bool
  deriving DecidableEq, Repr

inductive Command where
  | run (options : RunOptions)
  | check (file : FilePath)
  | tasks
  deriving DecidableEq, Repr

inductive Invocation where
  | help
  | version
  | command (verbose : Bool) (command : Command)
  deriving DecidableEq, Repr

/-- The options that take a value. -/
inductive ValueOption where
  | baseDirectory
  | setting
  | object
  deriving DecidableEq, Repr

inductive CommandName where
  | run
  | check
  | tasks
  deriving DecidableEq, Repr

def CommandName.ofText? : String → Option CommandName
  | "run" => some .run
  | "check" => some .check
  | "tasks" => some .tasks
  | _ => none

/-- What was read of the arguments of a command. -/
structure Given where
  verbose : Bool := false
  printFacts : Bool := false
  baseDirectory : Option FilePath := none
  settings : List String := []
  object : Option String := none
  file : Option FilePath := none
  /-- The option whose value comes next. -/
  awaited : Option ValueOption := none
  /-- Whether options have ended. -/
  ended : Bool := false

namespace Given

def beVerbose (given : Given) : Option Given :=
  if given.verbose then none else some { given with verbose := true }

/-- Takes the value of an option; a path is not empty, and only settings may be repeated. -/
def take (given : Given) (option : ValueOption) (value : String) : Option Given :=
  let given := { given with awaited := none }
  match option with
  | .baseDirectory =>
    if value.isEmpty || given.baseDirectory.isSome then none
    else some { given with baseDirectory := some value }
  | .setting => some { given with settings := given.settings ++ [value] }
  | .object =>
    if given.object.isSome then none else some { given with object := some value }

def takeFile (command : CommandName) (given : Given) (file : String) : Option Given :=
  if command == .tasks || file.isEmpty || given.file.isSome then none
  else some { given with file := some file }

def valueOption? : List Char → Option ValueOption
  | ['b', 'a', 's', 'e', '-', 'd', 'i', 'r'] => some .baseDirectory
  | ['s', 'e', 't'] => some .setting
  | ['v', 'a', 'r', 's'] => some .object
  | _ => none

/-- A long option, without its dashes. A value may stand behind an equals sign. -/
def takeLong (command : CommandName) (given : Given) (option : List Char) : Option Given :=
  let name := option.takeWhile (· != '=')
  let value := option.drop name.length
  match valueOption? name with
  | some taking =>
    if command != .run then none
    else match value with
      | [] => some { given with awaited := some taking }
      | _ :: value => given.take taking (String.ofList value)
  | none =>
    if !value.isEmpty then none
    else if String.ofList name == "verbose" then given.beVerbose
    else if String.ofList name == "print-facts" && command == .run && !given.printFacts then
      some { given with printFacts := true }
    else none

/-- Short options, written behind one dash. A request for help or, before a command, for the
version ends the reading. -/
def takeShort (inCommand : Bool) (given : Given) : List Char → Option (Invocation ⊕ Given)
  | [] => some (.inr given)
  | 'h' :: _ => some (.inl .help)
  | 'V' :: _ => if inCommand then none else some (.inl .version)
  | 'v' :: rest => given.beVerbose.bind fun given ↦ given.takeShort inCommand rest
  | _ => none

/-- The command that was given, if nothing is missing. -/
def finish (command : CommandName) (given : Given) : Option Invocation :=
  if given.awaited.isSome then none
  else match command, given.file with
    | .run, some file =>
      some (.command given.verbose (.run ⟨file, given.baseDirectory, given.settings,
        given.object, given.printFacts⟩))
    | .check, some file => some (.command given.verbose (.check file))
    | .tasks, none => some (.command given.verbose .tasks)
    | _, _ => none

end Given

/-- Whether an argument is an option; a single dash is none. -/
def isOption (argument : List Char) : Bool :=
  argument.head? == some '-' && argument != ['-']

/-- Reads one argument of a command. -/
def readArgument (command : CommandName) (given : Given) (argument : String) :
    Option (Invocation ⊕ Given) :=
  if given.ended then (given.takeFile command argument).map .inr
  else match argument.toList with
    | ['-', '-'] => some (.inr { given with ended := true })
    | '-' :: '-' :: option =>
      if option == "help".toList then some (.inl .help)
      else (given.takeLong command option).map .inr
    | '-' :: c :: option => given.takeShort true (c :: option)
    | _ => (given.takeFile command argument).map .inr

/-- Reads the arguments of a command. -/
def readCommand (command : CommandName) (given : Given) : List String → Option Invocation
  | [] => given.finish command
  | argument :: rest =>
    match given.awaited with
    | some option =>
      if isOption argument.toList then none
      else (given.take option argument).bind fun given ↦ readCommand command given rest
    | none =>
      match readArgument command given argument with
      | none => none
      | some (.inl invocation) => some invocation
      | some (.inr given) => readCommand command given rest

/-- Reads options up to the name of a command, and the command. -/
def read (given : Given) : List String → Option Invocation
  | [] => none
  | argument :: rest =>
    match argument.toList with
    | '-' :: '-' :: option =>
      if option == "help".toList then some .help
      else if option == "version".toList then some .version
      else if option == "verbose".toList then given.beVerbose.bind fun given ↦ read given rest
      else none
    | '-' :: c :: option =>
      match given.takeShort false (c :: option) with
      | none => none
      | some (.inl invocation) => some invocation
      | some (.inr given) => read given rest
    | _ =>
      match CommandName.ofText? argument with
      | some command =>
        (readCommand command {} rest).map fun invocation ↦
          match invocation with
          | .command verbose command => .command (given.verbose || verbose) command
          | other => other
      | none =>
        if argument == "help" && rest.length ≤ 1 &&
            rest.all (fun name ↦ (CommandName.ofText? name).isSome || name == "help") then
          some .help
        else none

/-- What the arguments ask for, if they can be understood. -/
def parse (arguments : List String) : Option Invocation :=
  read {} arguments

end Playbook.CommandLine
