/-!
# What can go wrong with a file
-/

namespace Playbook

inductive FileError where
  | notPermitted
  | notFound
  | denied
  | exists
  | notDirectory
  | isDirectory
  | nameTooLong
  | loops
  /-- The content is no text. -/
  | notText
  | nulByte
  | other (text : String)
  deriving DecidableEq, Repr

def FileError.message : FileError → String
  | .notPermitted => "Operation not permitted (os error 1)"
  | .notFound => "No such file or directory (os error 2)"
  | .denied => "Permission denied (os error 13)"
  | .exists => "File exists (os error 17)"
  | .notDirectory => "Not a directory (os error 20)"
  | .isDirectory => "Is a directory (os error 21)"
  | .nameTooLong => "File name too long (os error 36)"
  | .loops => "Too many levels of symbolic links (os error 40)"
  | .notText => "stream did not contain valid UTF-8"
  | .nulByte => "file name contained an unexpected NUL byte"
  | .other text => text

end Playbook
