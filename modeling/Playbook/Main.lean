import Playbook.CommandLine.Basic

/-!
# The program

A command runs on a copy of the files in memory: those below the working directory, and others
once they are asked for. What it changed is written back when it ended.
-/

namespace Playbook.Program

/-- The variables of this process. -/
def processVariables : IO Environment := do
  let bytes ← IO.FS.readBinFile "/proc/self/environ"
  let entries := (Text.Utf8.lossy bytes.data.toList).splitOn "\x00"
  return .ofList (entries.filterMap fun entry ↦
    match entry.toList.span (· != '=') with
    | (name, _ :: value) => some (String.ofList name, String.ofList value)
    | _ => none)

/-- Puts a file or a directory of the machine into the copy, if it is there. -/
def load (files : FileSystem) (path : FilePath) : IO FileSystem := do
  try
    let place ← IO.FS.realPath path
    if ← place.isDir then return files.place path (.directory FileSystem.newDirectoryMode)
    let content ← IO.FS.readBinFile path
    return files.place path (.file content.data.toList FileSystem.newFileMode)
  catch _ => return files

/-- Whether a directory is copied: hidden ones are not. -/
def isCopied (name : String) : Bool :=
  name.toList.head? != some '.'

/-- The files below the working directory. -/
def loadWorkingDirectory : IO FileSystem := do
  let here ← IO.currentDir
  let names := FilePath.components here.toString
  let paths ← here.walkDir fun path ↦ return isCopied (path.fileName.getD "")
  (paths.toList.map toString).foldlM load (.initial (names.filter (· != "/")))

/-- Runs a command, again with more files as long as it asks for new ones. -/
def runWith (environment : Environment) (arguments : List String) :
    (rounds : Nat) → (asked : List FilePath) → CommandLine.Disk →
    IO (CommandLine.Outcome × FileSystem × FileSystem)
  | rounds, asked, disk => do
    let (outcome, after) := (CommandLine.execute environment arguments).run disk
    let wanted := after.reads.filter (· ∉ asked)
    match rounds with
    | 0 => return (outcome, disk.files, after.files)
    | rounds + 1 =>
      if wanted.isEmpty then return (outcome, disk.files, after.files)
      else
        let files ← wanted.foldlM load disk.files
        runWith environment arguments rounds (wanted ++ asked) ⟨files, []⟩

/-- Rights as the digits of a mode tell them. -/
def rights (mode : Nat) : IO.FileRight :=
  let access (digit : Nat) : IO.AccessRight :=
    { read := digit / 4 % 2 == 1, write := digit / 2 % 2 == 1, execution := digit % 2 == 1 }
  { user := access (mode / 64), group := access (mode / 8), other := access mode }

/-- Writes an entry back, unless it is as it was before. -/
def writeBack (before : FileSystem) (path : String) (entry : FileEntry) : IO Unit := do
  match entry, before.entries.get? path with
  | .directory _, some (.directory _) => return ()
  | .directory _, _ => IO.FS.createDirAll path
  | .file content mode, some (.file earlier earlierMode) =>
    if content != earlier then IO.FS.writeBinFile path ⟨content.toArray⟩
    if mode != earlierMode then IO.setAccessRights path (rights mode)
  | .file content mode, _ =>
    IO.FS.writeBinFile path ⟨content.toArray⟩
    IO.setAccessRights path (rights mode)

/-- Makes the files of the machine what they became in the copy. -/
def store (before after : FileSystem) : IO Unit := do
  for (path, entry) in after.entries.entries do
    writeBack before path entry
  for (path, entry) in before.entries.entries do
    match entry, after.entries.get? path with
    | .file .., none => IO.FS.removeFile path
    | _, _ => pure ()

/-- How often a command may ask for new files. -/
def roundLimit : Nat := 1000

def run (arguments : List String) : IO UInt32 := do
  let environment ← processVariables
  let copy ← load (← loadWorkingDirectory) CommandLine.variableFile
  let (outcome, before, after) ← runWith environment arguments roundLimit [] ⟨copy, []⟩
  store before after
  (← IO.getStdout).putStr outcome.output
  (← IO.getStderr).putStr outcome.errors
  return UInt32.ofNat outcome.code

end Playbook.Program

def main (arguments : List String) : IO UInt32 :=
  Playbook.Program.run arguments
