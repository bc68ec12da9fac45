import Playbook.Decimal.Reading
import Playbook.Json.Basic

/-!
# Decoding JSON values

Reading a value as text, a list, a number or a record. A record is read field by field in key
order, and the first fault decides; a field that is missing shows at the end.
-/

namespace Playbook

inductive DecodeError where
  | wrongType (value : Json) (expected : String)
  | wrongValue (value : Json) (expected : String)
  | missingField (name : String)
  | duplicateField (name : String)
  /-- Neither a number of permission bits nor a text. -/
  | noMode
  | invalidMode (text : String) (fault : Decimal.Integer.Fault)
  | tooLong (size : Nat)

def DecodeError.message : DecodeError → String
  | .wrongType value expected => value.mismatch expected
  | .wrongValue value expected => "invalid value: " ++ value.describe ++ ", expected " ++ expected
  | .missingField name => "missing field `" ++ name ++ "`"
  | .duplicateField name => "duplicate field `" ++ name ++ "`"
  | .noMode => "data did not match any variant of untagged enum Mode"
  | .invalidMode text fault => "invalid mode '" ++ text ++ "': " ++ fault.message
  | .tooLong size =>
    "invalid length " ++ toString size ++ ", expected fewer elements in array"

namespace Json

def toText (expected : String) : Json → Except DecodeError String
  | .str text => .ok text
  | other => .error (.wrongType other expected)

def toPath (value : Json) : Except DecodeError String :=
  value.toText "path string"

def toOptionalText : Json → Except DecodeError (Option String)
  | .null => .ok none
  | other => (other.toText "a string").map some

def toPaths : Json → Except DecodeError (List String)
  | .arr items => items.mapM toPath
  | other => .error (.wrongType other "a sequence")

def toFields : Json → Except DecodeError (List (String × Json))
  | .obj fields => .ok fields
  | other => .error (.wrongType other "a map")

def toSize : Json → Except DecodeError Nat
  | .int n => if 0 ≤ n then .ok n.toNat else .error (.wrongValue (.int n) "usize")
  | other => .error (.wrongType other "usize")

/-- Sets a part of a record that may be given once. -/
def once {α : Type} (name : String) (earlier : Option α) (part : Except DecodeError α) :
    Except DecodeError (Option α) :=
  match earlier with
  | some _ => .error (.duplicateField name)
  | none => part.map some

def required {α : Type} (name : String) : Option α → Except DecodeError α
  | some value => .ok value
  | none => .error (.missingField name)

end Json

end Playbook
