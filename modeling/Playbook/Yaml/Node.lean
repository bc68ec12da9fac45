import Playbook.Decimal.Layout
import Playbook.Json.Basic

/-!
# YAML nodes

A node is a scalar, a sequence, a mapping whose keys are nodes in document order, or a node under
a local tag. `untagged` looks through tags; `toJson` is the JSON value of a node, which exists when
every key has a text.
-/

namespace Playbook.Yaml

inductive Node where
  | null
  | bool (value : Bool)
  | int (value : Int)
  | float (value : Float)
  | str (text : String)
  | seq (items : List Node)
  | map (entries : List (Node × Node))
  /-- The tag stands here with its exclamation mark. -/
  | tagged (tag : String) (content : Node)
  deriving Inhabited

inductive Kind where
  | null
  | boolean
  | number
  | string
  | sequence
  | mapping
  | tagged
  deriving DecidableEq, Repr

def Kind.name : Kind → String
  | .null => "null"
  | .boolean => "boolean"
  | .number => "number"
  | .string => "string"
  | .sequence => "sequence"
  | .mapping => "mapping"
  | .tagged => "tagged value"

/-- Why a node has no JSON value: one of its keys has no text. -/
inductive KeyFault where
  | notString
  | notFinite
  deriving DecidableEq, Repr

def KeyFault.message : KeyFault → String
  | .notString => "key must be a string"
  | .notFinite => "float key must be finite (got NaN or +/-inf)"

namespace Node

def kind : Node → Kind
  | .null => .null
  | .bool _ => .boolean
  | .int _ => .number
  | .float _ => .number
  | .str _ => .string
  | .seq _ => .sequence
  | .map _ => .mapping
  | .tagged .. => .tagged

def untagged : Node → Node
  | .tagged _ content => content.untagged
  | node => node

def string? (node : Node) : Option String :=
  match node.untagged with
  | .str text => some text
  | _ => none

def bool? (node : Node) : Option Bool :=
  match node.untagged with
  | .bool value => some value
  | _ => none

def seq? (node : Node) : Option (List Node) :=
  match node.untagged with
  | .seq items => some items
  | _ => none

def map? (node : Node) : Option (List (Node × Node)) :=
  match node.untagged with
  | .map entries => some entries
  | _ => none

/-- The text of an untagged string, boolean or number. -/
def scalar? : Node → Option String
  | .str text => some text
  | .bool value => some (if value then "true" else "false")
  | .int value => some (toString value)
  | .float value => some (Decimal.Layout.yaml.text value)
  | _ => none

/-- Two tags are the same with or without their first exclamation mark. -/
def bareTag (tag : String) : List Char :=
  match tag.toList with
  | '!' :: [] => ['!']
  | '!' :: rest => rest
  | chars => chars

mutual

/-- Equality as keys of a mapping: not-a-number equals itself, and the entries of a mapping have no
order. -/
def same : Node → Node → Bool
  | .null, .null => true
  | .bool a, .bool b => a == b
  | .int a, .int b => a == b
  | .float a, .float b => a == b || (a.isNaN && b.isNaN)
  | .str a, .str b => a == b
  | .seq a, .seq b => sameItems a b
  | .map a, .map b => a.length == b.length && sameEntries a b
  | .tagged t a, .tagged u b => bareTag t == bareTag u && same a b
  | _, _ => false

def sameItems : List Node → List Node → Bool
  | [], [] => true
  | a :: as, b :: bs => same a b && sameItems as bs
  | _, _ => false

def sameEntries : List (Node × Node) → List (Node × Node) → Bool
  | [], _ => true
  | (k, v) :: rest, others =>
    others.any (fun entry ↦ same k entry.1 && same v entry.2) && sameEntries rest others

end

/-- The text that a key gets in a JSON object. -/
def keyText : Node → Except KeyFault String
  | .str text => .ok text
  | .bool value => .ok (if value then "true" else "false")
  | .int value => .ok (toString value)
  | .float value =>
    if value.isFinite then .ok (Decimal.Layout.json.text value) else .error .notFinite
  | _ => .error .notString

/-- A tag as it is written: with one exclamation mark before it. -/
def tagText (tag : String) : String :=
  String.ofList ('!' :: bareTag tag)

mutual

/-- The JSON value of a node. A float that is no number becomes null, a tagged node an object with
the tag as its key, and of two keys with the same text the later one counts. -/
def toJson : Node → Except KeyFault Json
  | .null => .ok .null
  | .bool value => .ok (.bool value)
  | .int value => .ok (.int value)
  | .float value => .ok (if value.isFinite then .float value else .null)
  | .str text => .ok (.str text)
  | .seq items => (itemsToJson items).map .arr
  | .map entries => (entriesToJson entries).map fun fields ↦ .obj (Entries.ofList fields)
  | .tagged tag content => (toJson content).map fun value ↦ .obj [(tagText tag, value)]

def itemsToJson : List Node → Except KeyFault (List Json)
  | [] => .ok []
  | node :: rest =>
    match toJson node with
    | .error fault => .error fault
    | .ok value => (itemsToJson rest).map (value :: ·)

def entriesToJson : List (Node × Node) → Except KeyFault (List (String × Json))
  | [] => .ok []
  | (key, value) :: rest =>
    match keyText key with
    | .error fault => .error fault
    | .ok text =>
      match toJson value with
      | .error fault => .error fault
      | .ok value => (entriesToJson rest).map ((text, value) :: ·)

end

end Node

end Playbook.Yaml
