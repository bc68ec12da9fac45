import Playbook.Decimal.Reading
import Playbook.FileSystem
import Playbook.Shell.Syntax

/-!
# The state of a running shell

Variables, files and streams. What is written goes to buffers or files; a pipe is a buffer of its
own that the next command reads.
-/

namespace Playbook.Shell

inductive Target where
  | buffer (index : Nat)
  | file (path : FilePath)
  | discard

/-- Whether the shell goes on, and if not, why. -/
inductive Flow where
  | onward
  | exit
  | killed
  | leaveLoop
  | nextRound
  | leaveFunction
  deriving DecidableEq

/-- How a shell reacts to faults. -/
structure Options where
  /-- Whether the first command that fails ends the shell. -/
  strict : Bool := false
  /-- Whether a variable without a value is a fault. -/
  bound : Bool := false
  /-- Whether a pipe fails as soon as one of its commands does. -/
  wholePipe : Bool := false

structure Machine where
  /-- The name the shell was started by. -/
  program : String
  files : FileSystem
  values : SortedMap String
  status : Nat
  flow : Flow
  input : List UInt8
  /-- What was written to each buffer. -/
  buffers : Array (List UInt8)
  output : Target
  errors : Target
  /-- The arguments of the shell or of the function that runs. -/
  arguments : List String := []
  functions : List (String × Command) := []
  /-- The values outside of the function of the variables that are local to it. -/
  locals : List (String × Option String) := []
  options : Options := {}
  /-- Whether a failure is asked for, and does not end a strict shell. -/
  guarded : Bool := false
  /-- What is run when the shell ends. -/
  atExit : Option String := none

namespace Machine

def write (m : Machine) (target : Target) (bytes : List UInt8) : Machine :=
  match target with
  | .buffer index => { m with buffers := m.buffers.modify index (· ++ bytes) }
  | .discard => m
  | .file path =>
    match (m.files.read path).toOption with
    | some content =>
      match m.files.write path (content ++ bytes) with
      | .ok files => { m with files }
      | .error _ => m
    | none => m

def print (m : Machine) (text : String) : Machine :=
  m.write m.output (Text.Utf8.encode text)

def report (m : Machine) (text : String) : Machine :=
  m.write m.errors (Text.Utf8.encode (text ++ "\n"))

def finish (m : Machine) (status : Nat) : Machine :=
  { m with status }

/-- Reports a fault in the line of a command and fails with a status. -/
def complain (m : Machine) (line : Nat) (text : String) (status : Nat) : Machine :=
  (m.report s!"{m.program}: line {line}: {text}").finish status

/-- Ends a strict shell after a command that failed. -/
def checked (m : Machine) : Machine :=
  if m.options.strict && !m.guarded && m.status != 0 && m.flow == .onward then
    { m with flow := .exit }
  else m

/-- The number of the process. -/
def process : String := "1"

def value (m : Machine) (name : String) : Option String :=
  match name with
  | "?" => some (toString m.status)
  | "#" => some (toString m.arguments.length)
  | "0" => some m.program
  | "$" => some process
  | "-" => some "hBc"
  | "@" => some (" ".intercalate m.arguments)
  | "*" => some (" ".intercalate m.arguments)
  | "PWD" => some (FileSystem.key m.files.here)
  | "UID" => some "0"
  | name =>
    match Decimal.Integer.int64 name.toList with
    | .ok place => m.arguments[place.toNat - 1]?
    | .error _ => m.values.get? name

def assign (m : Machine) (name value : String) : Machine :=
  { m with values := m.values.insert name value }

/-- Gives local variables the values they have outside. -/
def dropLocals (m : Machine) : Machine :=
  let values := m.locals.foldl (fun values (name, value) ↦
    match value with
    | some value => values.insert name value
    | none => values.erase name) m.values
  { m with values, locals := [] }

/-- The text of a fault without its number. -/
def reason (fault : FileError) : String :=
  match fault with
  | .notFound => "No such file or directory"
  | .denied => "Permission denied"
  | .notDirectory => "Not a directory"
  | .isDirectory => "Is a directory"
  | .exists => "File exists"
  | fault => fault.message

def moveTo (m : Machine) (path : FilePath) : Except FileError Machine :=
  match m.files.locate path with
  | .error fault => .error fault
  | .ok names =>
    match m.files.enter names with
    | .error fault => .error fault
    | .ok () => .ok { m with files := { m.files with here := names } }

end Machine

end Playbook.Shell
