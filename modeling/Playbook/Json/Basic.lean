import Playbook.Decimal.Layout
import Playbook.SortedMap
import Playbook.Text.Quoted

/-!
# JSON values

Facts, task configurations and outputs are JSON values. Integers and floats are different values,
and the fields of an object stand in ascending key order.
-/

namespace Playbook

inductive Json where
  | null
  | bool (value : Bool)
  | int (value : Int)
  | float (value : Float)
  | str (text : String)
  | arr (items : List Json)
  | obj (fields : List (String × Json))

namespace Json

instance : Inhabited Json := ⟨.null⟩

mutual

/-- Equality of values; two floats are equal as numbers. -/
def same : Json → Json → Bool
  | .null, .null => true
  | .bool a, .bool b => a == b
  | .int a, .int b => a == b
  | .float a, .float b => a == b
  | .str a, .str b => a == b
  | .arr a, .arr b => sameItems a b
  | .obj a, .obj b => sameFields a b
  | _, _ => false

def sameItems : List Json → List Json → Bool
  | [], [] => true
  | a :: as, b :: bs => same a b && sameItems as bs
  | _, _ => false

def sameFields : List (String × Json) → List (String × Json) → Bool
  | [], [] => true
  | (j, a) :: as, (k, b) :: bs => j == k && same a b && sameFields as bs
  | _, _ => false

end

def ofMap (map : SortedMap Json) : Json :=
  .obj map.entries

def ofStrings (map : SortedMap String) : Json :=
  .obj (map.entries.map fun entry ↦ (entry.1, .str entry.2))

def object (fields : List (String × Json)) : Json :=
  .obj (Entries.ofList fields)

def field? (value : Json) (key : String) : Option Json :=
  match value with
  | .obj fields => Entries.lookup key fields
  | _ => none

def escapeChar (c : Char) : String :=
  if c == '\"' then "\\\""
  else if c == '\\' then "\\\\"
  else if c == '\n' then "\\n"
  else if c == '\r' then "\\r"
  else if c == '\t' then "\\t"
  else if c == '\x08' then "\\b"
  else if c == '\x0C' then "\\f"
  else if c.toNat < 0x20 then
    "\\u00" ++ (if c.toNat < 0x10 then "0" else "1") ++ Text.hexText (c.toNat % 16)
  else c.toString

def escape (text : String) : String :=
  text.toList.foldl (fun out c ↦ out ++ escapeChar c) "\"" ++ "\""

def scalarText : Json → String
  | .null => "null"
  | .bool true => "true"
  | .bool false => "false"
  | .int n => toString n
  | .float x => Decimal.Layout.json.text x
  | .str s => escape s
  | .arr _ => ""
  | .obj _ => ""

mutual

/-- The text of a value without blanks, put after `out`. -/
def compactOnto (out : String) : Json → String
  | .arr items => compactItems (out ++ "[") "" items ++ "]"
  | .obj fields => compactFields (out ++ "\x7b") "" fields ++ "\x7d"
  | other => out ++ scalarText other

def compactItems (out separator : String) : List Json → String
  | [] => out
  | item :: rest => compactItems (compactOnto (out ++ separator) item) "," rest

def compactFields (out separator : String) : List (String × Json) → String
  | [] => out
  | (key, value) :: rest =>
    compactFields (compactOnto (out ++ separator ++ escape key ++ ":") value) "," rest

end

def compact (value : Json) : String :=
  compactOnto "" value

def indentation (depth : Nat) : String :=
  String.ofList (List.replicate (2 * depth) ' ')

mutual

/-- The text of a value with one item or field a line, each level two blanks further in. -/
def prettyOnto (depth : Nat) (out : String) : Json → String
  | .arr [] => out ++ "[]"
  | .obj [] => out ++ "\x7b\x7d"
  | .arr items =>
    prettyItems (depth + 1) (out ++ "[") "\n" items ++ "\n" ++ indentation depth ++ "]"
  | .obj fields =>
    prettyFields (depth + 1) (out ++ "\x7b") "\n" fields ++ "\n" ++ indentation depth ++ "\x7d"
  | other => out ++ scalarText other

def prettyItems (depth : Nat) (out separator : String) : List Json → String
  | [] => out
  | item :: rest =>
    prettyItems depth (prettyOnto depth (out ++ separator ++ indentation depth) item) ",\n" rest

def prettyFields (depth : Nat) (out separator : String) : List (String × Json) → String
  | [] => out
  | (key, value) :: rest =>
    prettyFields depth
      (prettyOnto depth (out ++ separator ++ indentation depth ++ escape key ++ ": ") value)
      ",\n" rest

end

def pretty (value : Json) : String :=
  prettyOnto 0 "" value

mutual

/-- The text of a value in which every part is named by its kind. -/
def inspect : Json → String
  | .null => "Null"
  | .bool b => "Bool(" ++ scalarText (.bool b) ++ ")"
  | .int n => "Number(" ++ scalarText (.int n) ++ ")"
  | .float x => "Number(" ++ scalarText (.float x) ++ ")"
  | .str s => "String(" ++ Text.quote s ++ ")"
  | .arr items => "Array [" ++ ", ".intercalate (inspectItems items) ++ "]"
  | .obj fields => "Object \x7b" ++ ", ".intercalate (inspectFields fields) ++ "\x7d"

def inspectItems : List Json → List String
  | [] => []
  | item :: rest => inspect item :: inspectItems rest

def inspectFields : List (String × Json) → List String
  | [] => []
  | (key, value) :: rest => (Text.quote key ++ ": " ++ inspect value) :: inspectFields rest

end

/-- A value named by its kind, and by its content where that is short. -/
def describe : Json → String
  | .null => "null"
  | .bool b => s!"boolean `{b}`"
  | .int n => s!"integer `{n}`"
  | .float x => s!"floating point `{Decimal.Layout.positional.text x}`"
  | .str s => "string " ++ Text.quote s
  | .arr _ => "sequence"
  | .obj _ => "map"

/-- What is said of a value of the wrong kind. -/
def mismatch (value : Json) (expected : String) : String :=
  "invalid type: " ++ value.describe ++ ", expected " ++ expected

end Json

end Playbook
