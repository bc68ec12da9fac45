import Playbook.Shell.Machine
import Playbook.Shell.Printing
import Playbook.Shell.TextUtility

/-!
# Utilities on files

Commands that list, make, copy and remove files and directories.
-/

namespace Playbook.Shell.FileUtility

open Machine

def paths (arguments : List String) : List String :=
  arguments.filter fun text ↦ !text.startsWith "-"

def hasFlag (flag : Char) (arguments : List String) : Bool :=
  flag ∈ (TextUtility.flags arguments).flatMap String.toList

/-- The names in a directory; hidden ones start with a dot. -/
def namesIn (m : Machine) (names : FileSystem.Names) : List String :=
  let start := FileSystem.key names ++ "/"
  m.files.entries.keys.filterMap fun key ↦
    if key.startsWith start then
      let name := String.ofList (key.toList.drop start.length)
      if '/' ∈ name.toList || name == "" then none else some name
    else none

def ls (m : Machine) (arguments : List String) : Machine :=
  let path := (paths arguments).headD "."
  let all := hasFlag 'a' arguments
  match m.files.lookup path with
  | .error fault => (m.report s!"ls: cannot access '{path}': {reason fault}").finish 2
  | .ok (_, .file ..) => (m.print (path ++ "\n")).finish 0
  | .ok (names, .directory _) =>
    let shown := (namesIn m names).filter fun name ↦
      all || hasFlag 'A' arguments || !name.startsWith "."
    (m.print (TextUtility.unlines ((if all then [".", ".."] else []) ++ shown))).finish 0

def touch (m : Machine) (path : String) : Machine :=
  match m.files.read path with
  | .ok _ => m
  | .error _ =>
    match m.files.write path [] with
    | .ok files => { m with files }
    | .error fault => (m.report s!"touch: cannot touch '{path}': {reason fault}").finish 1

/-- Whether the directory in which a path stands is there. -/
def hasParent (m : Machine) (path : String) : Bool :=
  match m.files.locate path with
  | .ok names => (m.files.entry? names.dropLast).isSome
  | .error _ => false

def mkdir (whole : Bool) (m : Machine) (path : String) : Machine :=
  let made := { m with files := m.files.place path (.directory FileSystem.newDirectoryMode) }
  if whole then made
  else match m.files.lookup path with
    | .ok _ => (m.report s!"mkdir: cannot create directory '{path}': File exists").finish 1
    | .error fault =>
      if hasParent m path then made
      else (m.report s!"mkdir: cannot create directory '{path}': {reason fault}").finish 1

def erase (m : Machine) (names : FileSystem.Names) : Machine :=
  { m with
    files := { m.files with entries := m.files.entries.erase (FileSystem.key names) } }

/-- Erases an entry and everything below it. -/
def eraseBelow (m : Machine) (names : FileSystem.Names) : Machine :=
  let key := FileSystem.key names
  let below := m.files.entries.keys.filter fun other ↦ other == key || other.startsWith (key ++ "/")
  { m with files := { m.files with entries := below.foldl (·.erase ·) m.files.entries } }

def rm (force recursive : Bool) (m : Machine) (path : String) : Machine :=
  let refuse (reason : String) := (m.report s!"rm: cannot remove '{path}': {reason}").finish 1
  match m.files.lookup path with
  | .ok (names, .file ..) => erase m names
  | .ok (names, .directory _) => if recursive then eraseBelow m names else refuse "Is a directory"
  | .error fault => if force then m else refuse (reason fault)

def rmdir (m : Machine) (path : String) : Machine :=
  let refuse (reason : String) := (m.report s!"rmdir: failed to remove '{path}': {reason}").finish 1
  match m.files.lookup path with
  | .ok (names, .directory _) =>
    if (namesIn m names).isEmpty then erase m names else refuse "Directory not empty"
  | .ok _ => refuse "Not a directory"
  | .error fault => refuse (reason fault)

/-- The path of a copy: inside of the target if that is a directory. -/
def destination (m : Machine) (source target : String) : String :=
  match m.files.lookup target with
  | .ok (_, .directory _) => FilePath.join target ((FilePath.fileName? source).getD source)
  | _ => target

def copy (command : String) (move : Bool) (m : Machine) (source target : String) : Machine :=
  match m.files.lookup source with
  | .error fault => (m.report s!"{command}: cannot stat '{source}': {reason fault}").finish 1
  | .ok (_, .directory _) =>
    (m.report s!"{command}: -r not specified; omitting directory '{source}'").finish 1
  | .ok (names, .file content mode) =>
    let path := destination m source target
    match m.files.write path content with
    | .error fault =>
      (m.report s!"{command}: cannot create regular file '{path}': {reason fault}").finish 1
    | .ok files =>
      let files := if (m.files.mode? path).isNone || move then
          (files.setMode path mode).toOption.getD files
        else files
      if move then erase { m with files } names else { m with files }

/-- Copies or moves files to the last of the paths. -/
def copyAll (command : String) (move : Bool) (m : Machine) (arguments : List String) : Machine :=
  match (paths arguments).getLast? with
  | some target => (paths arguments).dropLast.foldl (copy command move · · target) (m.finish 0)
  | none => (m.report (command ++ ": missing file operand")).finish 1

/-- Writes the input to the output and to files. -/
def tee (m : Machine) (arguments : List String) : Machine :=
  let written := (paths arguments).foldl (fun m path ↦
    let before := if hasFlag 'a' arguments then ((m.files.read path).toOption).getD [] else []
    match m.files.write path (before ++ m.input) with
    | .ok files => { m with files }
    | .error fault => (m.report s!"tee: {path}: {reason fault}").finish 1) (m.finish 0)
  { written.write written.output m.input with input := [] }

/-- The octal number of a mode. -/
def octal (mode : Nat) : String :=
  String.ofList (Nat.toDigits 8 mode)

def stat (m : Machine) : List String → Machine
  | ["-c", "%a", path] =>
    match m.files.mode? path with
    | some mode => (m.print (octal mode ++ "\n")).finish 0
    | none => (m.report s!"stat: cannot statx '{path}': No such file or directory").finish 1
  | _ => (m.report "stat: missing operand").finish 1

/-- Changes the mode of a file, given in octal digits, or makes it a program. -/
def chmod (m : Machine) : List String → Machine
  | mode :: files =>
    files.foldl (fun m path ↦
      let before := (m.files.mode? path).getD 0
      let wanted := if mode == "+x" then before ||| 0o111
        else (Printing.digits 8 5 mode.toList).1
      match m.files.setMode path wanted with
      | .ok files => { m with files }
      | .error fault => (m.report s!"chmod: cannot access '{path}': {reason fault}").finish 1)
      (m.finish 0)
  | [] => (m.report "chmod: missing operand").finish 1

def baseName (arguments : List String) : String :=
  let name := (FilePath.fileName? (arguments.headD "")).getD (arguments.headD "")
  match arguments with
  | [_, ending] =>
    if name.endsWith ending && name != ending then
      String.ofList (name.toList.take (name.length - ending.length))
    else name
  | _ => name

def directoryName (path : String) : String :=
  match FilePath.parent? path with
  | some "" => "."
  | some parent => parent
  | none => if FilePath.isAbsolute path then "/" else "."

/-- The utility of that name, where there is one. -/
def run? (m : Machine) (name : String) (arguments : List String) : Option Machine :=
  match name with
  | "ls" => some (ls m arguments)
  | "touch" => some ((paths arguments).foldl touch (m.finish 0))
  | "mkdir" => some ((paths arguments).foldl (mkdir (hasFlag 'p' arguments)) (m.finish 0))
  | "rmdir" => some ((paths arguments).foldl rmdir (m.finish 0))
  | "rm" => some ((paths arguments).foldl
      (rm (hasFlag 'f' arguments) (hasFlag 'r' arguments || hasFlag 'R' arguments)) (m.finish 0))
  | "cp" => some (copyAll "cp" false m arguments)
  | "mv" => some (copyAll "mv" true m arguments)
  | "tee" => some (tee m arguments)
  | "stat" => some (stat m arguments)
  | "chmod" => some (chmod m arguments)
  | "basename" => some ((m.print (baseName arguments ++ "\n")).finish 0)
  | "dirname" => some ((m.print (directoryName (arguments.headD "") ++ "\n")).finish 0)
  | _ => none

end Playbook.Shell.FileUtility
