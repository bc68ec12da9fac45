import Playbook.Shell.Arithmetic
import Playbook.Shell.FileUtility

/-!
# Utilities of the shell

The commands that need no other command. Each works on the state of the shell and leaves its status
there.
-/

namespace Playbook.Shell.Utility

open Machine

def echo (m : Machine) (arguments : List String) : Machine :=
  let isFlag (text : String) : Bool :=
    match text.toList with
    | '-' :: c :: rest => (c :: rest).all (· ∈ ['n', 'e', 'E'])
    | _ => false
  let flags := (arguments.takeWhile isFlag).flatMap String.toList
  let text := " ".intercalate (arguments.dropWhile isFlag)
  let bytes := if 'e' ∈ flags then Printing.unescape (text.length + 1) text.toList
    else Text.Utf8.encode text
  (m.write m.output (if 'n' ∈ flags then bytes else bytes ++ [10])).finish 0

def printf (m : Machine) (line : Nat) : List String → Machine
  | [] => m.complain line "printf: usage: printf [-v var] format [arguments]" 2
  | "--" :: format :: arguments =>
    (m.write m.output (Printing.printf format arguments)).finish 0
  | format :: arguments => (m.write m.output (Printing.printf format arguments)).finish 0

/-- Writes files to the output one after another; a dash stands for the input. -/
def cat (m : Machine) (status : Nat) : List String → Machine
  | [] => m.finish status
  | "-" :: rest => cat ({ m.write m.output m.input with input := [] }) status rest
  | path :: rest =>
    match m.files.read path with
    | .ok content => cat (m.write m.output content) status rest
    | .error fault => cat (m.report s!"cat: {path}: {reason fault}") 1 rest

def cd (m : Machine) (line : Nat) (path : String) : Machine :=
  match m.moveTo path with
  | .ok m => m.finish 0
  | .error fault => m.complain line s!"cd: {path}: {reason fault}" 1

def exit (m : Machine) (line : Nat) : List String → Machine
  | [] => { m with flow := .exit }
  | text :: _ =>
    match Decimal.Integer.int64 text.toList with
    | .ok value => { m with flow := .exit, status := (value % 256).toNat }
    | .error _ =>
      { m.complain line s!"exit: {text}: numeric argument required" 2 with flow := .exit }

def kill (m : Machine) (arguments : List String) : Machine :=
  let targets := arguments.filter fun text ↦ !text.startsWith "-"
  if targets.contains "1" && !arguments.contains "-0" then { m with flow := .killed }
  else m.finish 0

/-- Takes a line off the input; the flag tells whether it ended with a line break. -/
def takeLine : List UInt8 → List UInt8 × Bool × List UInt8
  | [] => ([], false, [])
  | byte :: rest =>
    if byte == 10 then ([], true, rest)
    else
      let (line, ended, rest) := takeLine rest
      (byte :: line, ended, rest)

/-- Gives words to names; the last name gets all that is left. -/
def assignWords (m : Machine) : List String → List String → Machine
  | [], _ => m
  | [name], words => m.assign name (" ".intercalate words)
  | name :: rest, words => assignWords (m.assign name (words.headD "")) rest (words.drop 1)

def read (m : Machine) (arguments : List String) : Machine :=
  let names := arguments.filter fun text ↦ !text.startsWith "-"
  let (line, ended, rest) := takeLine m.input
  let text := Text.Utf8.lossy line
  let m := { m with input := rest }
  let m := match names with
    | [] => m.assign "REPLY" text
    | [name] => m.assign name (Text.trim text)
    | names => assignWords m names (Text.words text)
  m.finish (if ended then 0 else 1)

def fileTest (m : Machine) (flag path : String) : Bool :=
  match m.files.lookup path with
  | .error _ => false
  | .ok (_, .directory _) => flag != "-f"
  | .ok (_, .file content mode) =>
    match flag with
    | "-d" => false
    | "-s" => !content.isEmpty
    | "-r" => FileSystem.mayRead mode
    | "-w" => FileSystem.mayWrite mode
    | "-x" => FileSystem.maySearch mode
    | _ => true

/-- A comparison of two texts; in double brackets the second one may be a pattern. -/
def compares (double : Bool) (a operator b : String) : Bool :=
  let number (text : String) : Int := Printing.integer (Text.trim text)
  let same := if double then Pattern.fits (Pattern.read b.toList) a.toList else a == b
  match operator with
  | "=" => same
  | "==" => same
  | "!=" => !same
  | "=~" => Regular.occurs (Regular.read true b) a.toList
  | "<" => a < b
  | ">" => b < a
  | "-eq" => number a == number b
  | "-ne" => number a != number b
  | "-lt" => number a < number b
  | "-le" => number a ≤ number b
  | "-gt" => number a > number b
  | "-ge" => number a ≥ number b
  | _ => false

/-- A condition without connectives. -/
def holdsSimple (double : Bool) (m : Machine) : List String → Bool
  | [] => false
  | [text] => text != ""
  | "!" :: rest => !holdsSimple double m rest
  | ["-n", text] => text != ""
  | ["-z", text] => text == ""
  | ["-v", name] => (m.value name).isSome
  | [flag, path] => fileTest m flag path
  | [a, operator, b] => compares double a operator b
  | _ => false

/-- A condition in brackets, in which "and" binds tighter than "or". -/
def holds (double : Bool) (m : Machine) (arguments : List String) : Bool :=
  if arguments.length ≤ 3 then holdsSimple double m arguments
  else
    let (disjunction, conjunction) := if double then ("||", "&&") else ("-o", "-a")
    (arguments.splitOn disjunction).any fun part ↦
      (part.splitOn conjunction).all fun condition ↦ holdsSimple double m condition

def test (double : Bool) (m : Machine) (arguments : List String) : Machine :=
  m.finish (if holds double m arguments then 0 else 1)

/-- A condition that ends with a closing bracket. -/
def bracketTest (m : Machine) (line : Nat) (arguments : List String) : Machine :=
  if arguments.getLast? == some "]" then test false m arguments.dropLast
  else m.complain line "[: missing `]'" 2

/-- Gives variables the values behind the equals signs of their names. -/
def declare (m : Machine) (arguments : List String) : Machine :=
  arguments.foldl (fun m text ↦
    match text.splitOn "=" with
    | name :: first :: rest => m.assign name ("=".intercalate (first :: rest))
    | _ => m) (m.finish 0)

/-- Remembers the value that a local variable has outside of the function. -/
def keepLocal (m : Machine) (argument : String) : Machine :=
  let name := (argument.splitOn "=").headD ""
  { m with locals := (name, m.values.get? name) :: m.locals }

/-- Switches an option that is named by a letter or by a word. -/
def setOption (on : Bool) (options : Options) (name : String) : Options :=
  match name with
  | "e" => { options with strict := on }
  | "errexit" => { options with strict := on }
  | "u" => { options with bound := on }
  | "nounset" => { options with bound := on }
  | "pipefail" => { options with wholePipe := on }
  | _ => options

/-- Switches options; what follows two dashes are the arguments of the shell. -/
def setAll (m : Machine) : List String → Machine
  | [] => m
  | "--" :: rest => { m with arguments := rest }
  | argument :: rest =>
    match argument.toList with
    | sign :: letters =>
      if sign != '-' && sign != '+' then { m with arguments := argument :: rest }
      else
        let names := letters.filter (· != 'o') |>.map Char.toString
        let names := if 'o' ∈ letters then names ++ [rest.headD ""] else names
        let options := names.foldl (setOption (sign == '-')) m.options
        setAll { m with options } (if 'o' ∈ letters then rest.drop 1 else rest)
    | [] => { m with arguments := argument :: rest }
termination_by arguments => arguments.length
decreasing_by split <;> simp only [List.length_drop, List.length_cons] <;> omega

def printed (m : Machine) (text : String) : Option Machine :=
  some ((m.print (text ++ "\n")).finish 0)

/-- Runs a command that belongs to the shell itself. -/
def builtin? (m : Machine) (line : Nat) (name : String) (arguments : List String) :
    Option Machine :=
  match name with
  | "true" => some (m.finish 0)
  | ":" => some (m.finish 0)
  | "false" => some (m.finish 1)
  | "echo" => some (echo m arguments)
  | "printf" => some (printf m line arguments)
  | "pwd" => printed m (if m.files.here.isEmpty then "/" else FileSystem.key m.files.here)
  | "cd" => some (cd m line (arguments.headD ((m.value "HOME").getD "")))
  | "exit" => some (exit m line arguments)
  | "kill" => some (kill m arguments)
  | "read" => some (read m arguments)
  | "test" => some (test false m arguments)
  | "[" => some (bracketTest m line arguments)
  | "[[" => some (test true m arguments.dropLast)
  | "export" => some (declare m arguments)
  | "declare" => some (declare m arguments)
  | "readonly" => some (declare m arguments)
  | "local" => some (declare (arguments.foldl keepLocal m) arguments)
  | "unset" => some { m with values := arguments.foldl (·.erase ·) m.values, status := 0 }
  | "let" =>
    match Arithmetic.evaluate m.values (arguments.headD "") with
    | some (value, values) => some ({ m with values }.finish (if value == 0 then 1 else 0))
    | none =>
      some (m.complain line ("let: " ++ arguments.headD "" ++ ": syntax error in expression") 1)
  | "break" => some { m with flow := .leaveLoop, status := 0 }
  | "continue" => some { m with flow := .nextRound, status := 0 }
  | "return" =>
    let status := (arguments.head?.map fun text ↦ (Printing.integer text % 256).toNat).getD m.status
    some { m with flow := .leaveFunction, status }
  | "shift" =>
    if m.arguments.isEmpty then some (m.finish 1)
    else some ({ m with arguments := m.arguments.drop 1 }.finish 0)
  | "set" => some ((setAll m arguments).finish 0)
  | "trap" =>
    match arguments with
    | [action, "EXIT"] => some ({ m with atExit := some action }.finish 0)
    | _ => some (m.finish 0)
  | "wait" => some (m.finish 0)
  | "umask" => printed m "0022"
  | _ => none

/-- The text of a utility's files, or else of its input. -/
def inputText (m : Machine) (command : String) : List String → Except String String
  | [] => .ok (Text.Utf8.lossy m.input)
  | path :: _ =>
    match m.files.read path with
    | .ok content => .ok (Text.Utf8.lossy content)
    | .error fault =>
      let opening := if command ∈ ["head", "tail"] then s!"cannot open '{path}' for reading"
        else if command == "sort" then s!"cannot read: {path}"
        else if command == "sed" then s!"can't read {path}"
        else path
      .error (command ++ ": " ++ opening ++ ": " ++ reason fault)

/-- Runs a program that changes nothing in the shell. -/
def program? (m : Machine) (name : String) (arguments : List String) : Option Machine :=
  match name with
  | "cat" => some (cat m 0 (if arguments.isEmpty then ["-"] else arguments))
  | "sleep" => some (m.finish 0)
  | "seq" => some ((m.print (TextUtility.sequence arguments)).finish 0)
  | "env" => some ((m.print (String.join (m.values.entries.map fun entry ↦
      entry.1 ++ "=" ++ entry.2 ++ "\n"))).finish 0)
  | "printenv" =>
    match m.values.get? (arguments.headD "") with
    | some value => printed m value
    | none => some (m.finish 1)
  | "whoami" => printed m "root"
  | "id" => printed m (if arguments == ["-un"] then "root" else "0")
  | "uname" => printed m "Linux"
  | name =>
    match TextUtility.run? name arguments "" with
    | none => FileUtility.run? m name arguments
    | some _ =>
      match inputText m name (TextUtility.files name arguments) with
      | .error message => some ((m.report message).finish (if name ∈ ["grep", "sed"] then 2 else 1))
      | .ok text =>
        (TextUtility.run? name arguments text).map fun (output, status) ↦
          ({ m with input := [] }.print output).finish status

/-- The directories in which programs stand. -/
def programDirectories : List String := ["/bin/", "/usr/bin/"]

/-- The name of a program without the directory it stands in. -/
def programName (name : String) : String :=
  match programDirectories.find? (name.startsWith ·) with
  | some directory => String.ofList (name.toList.drop directory.length)
  | none => name

/-- Commands of the shell that there are as programs too. -/
def standAlone : List String :=
  ["echo", "printf", "test", "[", "pwd", "true", "false", "kill"]

def isProgram (m : Machine) (name : String) : Bool :=
  name == "sh" || name == "bash" || (program? m name []).isSome

/-- Tells where the commands of some names are found. -/
def locate (m : Machine) (names : List String) (builtins : Bool) : Machine :=
  names.foldl (fun m name ↦
    if builtins && (builtin? m 1 name []).isSome then m.print (name ++ "\n")
    else if isProgram m name then m.print ("/usr/bin/" ++ name ++ "\n")
    else m.finish 1) (m.finish 0)

/-- Runs a utility; there is none with most names. -/
def run? (m : Machine) (line : Nat) (name : String) (arguments : List String) : Option Machine :=
  match name, arguments with
  | "command", "-v" :: names => some (locate m names true)
  | "which", names => some (locate m names false)
  | name, arguments =>
    let program := programName name
    if program == name || program ∈ standAlone then
      (builtin? m line program arguments).or (program? m program arguments)
    else program? m program arguments

end Playbook.Shell.Utility
