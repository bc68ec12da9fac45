import Playbook.FileError
import Playbook.FilePath
import Playbook.SortedMap
import Playbook.Text.Utf8

/-!
# Files and directories

A file system holds directories and files with their permissions; relative paths are seen from one
working directory. Everything in it belongs to the user who runs the program.
-/

namespace Playbook

inductive FileEntry where
  | directory (mode : Nat)
  | file (content : List UInt8) (mode : Nat)

/-- The entries by absolute path, where the root is the empty text, and the working directory. -/
structure FileSystem where
  entries : SortedMap FileEntry
  here : List String

namespace FileSystem

/-- A path as the names that lead down from the root. -/
abbrev Names := List String

def key (names : Names) : String :=
  String.join (names.map ("/" ++ ·))

def entry? (fs : FileSystem) (names : Names) : Option FileEntry :=
  fs.entries.get? (key names)

def mayRead (mode : Nat) : Bool := mode / 256 % 2 == 1

def mayWrite (mode : Nat) : Bool := mode / 128 % 2 == 1

def maySearch (mode : Nat) : Bool := mode / 64 % 2 == 1

/-- Checks that there is a directory which may be searched. -/
def enter (fs : FileSystem) (names : Names) : Except FileError Unit :=
  match fs.entry? names with
  | some (.directory mode) => if maySearch mode then .ok () else .error .denied
  | some (.file ..) => .error .notDirectory
  | none => .error .notFound

/-- Follows the parts of a path from a place on; every part before the last is in a directory. -/
def follow (fs : FileSystem) (names : Names) : List String → Except FileError Names
  | [] => .ok names
  | part :: rest =>
    match fs.enter names with
    | .error fault => .error fault
    | .ok () =>
      if part == "" || part == "." then fs.follow names rest
      else if part == ".." then fs.follow names.dropLast rest
      else fs.follow (names ++ [part]) rest

/-- Where a path leads; what stands there need not exist. -/
def locate (fs : FileSystem) (path : FilePath) : Except FileError Names :=
  if path.isEmpty then .error .notFound
  else if '\x00' ∈ path.toList then .error .nulByte
  else
    let parts := (FilePath.parts path.toList).map String.ofList
    fs.follow (if FilePath.isAbsolute path then [] else fs.here) parts

def lookup (fs : FileSystem) (path : FilePath) : Except FileError (Names × FileEntry) :=
  match fs.locate path with
  | .error fault => .error fault
  | .ok names =>
    match fs.entry? names with
    | some entry => .ok (names, entry)
    | none => .error .notFound

def read (fs : FileSystem) (path : FilePath) : Except FileError (List UInt8) :=
  match fs.lookup path with
  | .error fault => .error fault
  | .ok (_, .directory _) => .error .isDirectory
  | .ok (_, .file content mode) => if mayRead mode then .ok content else .error .denied

def readText (fs : FileSystem) (path : FilePath) : Except FileError String :=
  match fs.read path with
  | .error fault => .error fault
  | .ok content =>
    match Text.Utf8.decode content with
    | .ok text => .ok text
    | .error _ => .error .notText

def mode? (fs : FileSystem) (path : FilePath) : Option Nat :=
  match fs.lookup path with
  | .ok (_, .file _ mode) => some mode
  | .ok (_, .directory mode) => some mode
  | .error _ => none

/-- The permissions of a new file. -/
def newFileMode : Nat := 0o644

def newDirectoryMode : Nat := 0o755

def put (fs : FileSystem) (names : Names) (entry : FileEntry) : FileSystem :=
  { fs with entries := fs.entries.insert (key names) entry }

/-- Replaces the content of a file, or makes a new file in an existing directory. -/
def write (fs : FileSystem) (path : FilePath) (content : List UInt8) :
    Except FileError FileSystem :=
  match fs.locate path with
  | .error fault => .error fault
  | .ok names =>
    match fs.entry? names with
    | some (.directory _) => .error .isDirectory
    | some (.file _ mode) =>
      if mayWrite mode then .ok (fs.put names (.file content mode)) else .error .denied
    | none =>
      if path.toList.getLast? == some '/' then .error .isDirectory
      else match fs.entry? names.dropLast with
        | some (.directory mode) =>
          if mayWrite mode && maySearch mode then .ok (fs.put names (.file content newFileMode))
          else .error .denied
        | some (.file ..) => .error .notDirectory
        | none => .error .notFound

def setMode (fs : FileSystem) (path : FilePath) (mode : Nat) : Except FileError FileSystem :=
  match fs.lookup path with
  | .error fault => .error fault
  | .ok (names, .file content _) => .ok (fs.put names (.file content (mode % 0o10000)))
  | .ok (names, .directory _) => .ok (fs.put names (.directory (mode % 0o10000)))

/-- Makes the directories on the way to `names`. -/
def makeDirectories (fs : FileSystem) (reached : Names) : Names → FileSystem
  | [] => fs
  | name :: rest =>
    let names := reached ++ [name]
    let fs := match fs.entry? names with
      | some _ => fs
      | none => fs.put names (.directory newDirectoryMode)
    fs.makeDirectories names rest

/-- An absolute path that can be written without dots. -/
def plainNames (fs : FileSystem) (path : FilePath) : Names :=
  let parts := ((FilePath.parts path.toList).filter (!FilePath.isVoid ·)).map String.ofList
  let base := if FilePath.isAbsolute path then [] else fs.here
  parts.foldl (fun names part ↦ if part == ".." then names.dropLast else names ++ [part]) base

/-- Puts an entry at a path and makes the directories around it. -/
def place (fs : FileSystem) (path : FilePath) (entry : FileEntry) : FileSystem :=
  let names := fs.plainNames path
  let fs := fs.makeDirectories [] names.dropLast
  match entry with
  | .file content mode => fs.put names (.file content mode)
  | .directory _ => fs.makeDirectories [] names

/-- The root with the usual shells and devices, and an empty working directory. -/
def initial (here : Names) : FileSystem :=
  let root : FileSystem := ⟨SortedMap.empty.insert "" (.directory newDirectoryMode), here⟩
  let programs := ["/bin/sh", "/bin/bash", "/usr/bin/sh", "/usr/bin/bash"]
  let fs := programs.foldl (fun fs path ↦ fs.place path (.file [] 0o755)) root
  let fs := fs.place "/dev/null" (.file [] 0o666)
  let fs := (fs.makeDirectories [] ["tmp"]).makeDirectories [] ["root"]
  fs.makeDirectories [] here

end FileSystem

end Playbook
