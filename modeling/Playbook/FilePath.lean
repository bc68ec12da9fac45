import Playbook.Text.Blank

/-!
# File paths

A path is a text with slashes. Its components leave out empty parts and dots, except a dot at the
start of a relative path.
-/

namespace Playbook

abbrev FilePath := String

namespace FilePath

/-- The stretches between slashes, empty ones included. -/
def partsFrom (part : List Char) : List Char → List (List Char)
  | [] => [part.reverse]
  | c :: rest => if c == '/' then part.reverse :: partsFrom [] rest else partsFrom (c :: part) rest

def parts (text : List Char) : List (List Char) :=
  partsFrom [] text

def joinParts (parts : List (List Char)) : List Char :=
  ['/'].intercalate parts

def isVoid (part : List Char) : Bool :=
  part.isEmpty || part == ['.']

def isAbsolute (path : FilePath) : Bool :=
  path.toList.head? == some '/'

/-- The path `path` as seen from `base`. -/
def join (base path : FilePath) : FilePath :=
  if isAbsolute path || base.isEmpty then path
  else if base.toList.getLast? == some '/' then base ++ path
  else base ++ "/" ++ path

/-- What stands before the first component that may be left out: the root, or a leading dot. -/
def anchor (path : FilePath) : List Char :=
  match path.toList with
  | '/' :: _ => ['/']
  | ['.'] => ['.']
  | '.' :: '/' :: _ => ['.']
  | _ => []

/-- Drops void parts at the end. -/
def trimVoid (parts : List (List Char)) : List (List Char) :=
  (parts.reverse.dropWhile isVoid).reverse

/-- The parts after the anchor, up to the last one that counts. -/
def body (path : FilePath) : List (List Char) :=
  trimVoid (parts (path.toList.drop (anchor path).length))

/-- The directory that holds the last component; the root and the empty path have none. -/
def parent? (path : FilePath) : Option FilePath :=
  match body path with
  | [] => if anchor path == ['.'] then some "" else none
  | parts => some (String.ofList (anchor path ++ joinParts (trimVoid parts.dropLast)))

/-- The last component, unless it leads upwards. -/
def fileName? (path : FilePath) : Option String :=
  match (body path).getLast? with
  | some part => if part == ['.', '.'] then none else some (String.ofList part)
  | none => none

/-- The components of a path, those that change nothing left out. -/
def components (path : FilePath) : List String :=
  (if isAbsolute path then ["/"] else []) ++
    ((parts path.toList).filter (!isVoid ·)).map String.ofList

end FilePath

end Playbook
