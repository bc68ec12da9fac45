import Playbook.Registry

/-!
# The grammar of playbooks

What a playbook document looks like, said of its nodes alone. Keys are looked at without their
tags, and so are mappings and sequences, apart from the document and a list of guards; scalars
stand under no tag. A mapping may hold one key several times, under different tags: then the last
block of an element and the last items of a loop count, and no two entries name tasks.
-/

namespace Playbook.Grammar

open Yaml (Node)

/-- The key of an entry is the given text, under some tags or none. -/
def Names (text : String) (entry : Node × Node) : Prop :=
  entry.1.untagged = .str text

inductive IsScalar : Node → Prop where
  | str (text : String) : IsScalar (.str text)
  | bool (value : Bool) : IsScalar (.bool value)
  | int (value : Int) : IsScalar (.int value)
  | float (value : Float) : IsScalar (.float value)

/-! ## Nodes with a JSON value -/

inductive IsJsonKey : Node → Prop where
  | str (text : String) : IsJsonKey (.str text)
  | bool (value : Bool) : IsJsonKey (.bool value)
  | int (value : Int) : IsJsonKey (.int value)
  | float {value : Float} (finite : value.isFinite = true) : IsJsonKey (.float value)

inductive IsJson : Node → Prop where
  | null : IsJson .null
  | scalar {node : Node} (scalar : IsScalar node) : IsJson node
  | seq {items : List Node} (values : ∀ item ∈ items, IsJson item) : IsJson (.seq items)
  | map {entries : List (Node × Node)} (keys : ∀ entry ∈ entries, IsJsonKey entry.1)
      (values : ∀ entry ∈ entries, IsJson entry.2) : IsJson (.map entries)
  | tagged {tag : String} {content : Node} (value : IsJson content) :
      IsJson (.tagged tag content)

/-! ## Values of control fields -/

/-- The last entry with the given key holds a sequence with items. -/
inductive LastFilled (text : String) : List (Node × Node) → Prop where
  | here {entry : Node × Node} {item : Node} {items : List Node} {rest : List (Node × Node)}
      (names : Names text entry) (filled : entry.2.untagged = .seq (item :: items))
      (last : ∀ later ∈ rest, ¬ Names text later) : LastFilled text (entry :: rest)
  | later {entry : Node × Node} {rest : List (Node × Node)} (later : LastFilled text rest) :
      LastFilled text (entry :: rest)

/-- One condition, or an untagged sequence of conditions. -/
inductive IsGuards : Node → Prop where
  | one {node : Node} (scalar : IsScalar node) : IsGuards node
  | many {conditions : List Node} (scalars : ∀ condition ∈ conditions, IsScalar condition) :
      IsGuards (.seq conditions)

inductive IsVariable : Node × Node → Prop where
  | intro {text : String} {entry : Node × Node} (names : Names text entry)
      (scalar : IsScalar entry.2) : IsVariable entry

inductive IsLoopEntry : Node × Node → Prop where
  | var {entry : Node × Node} (names : Names "var" entry) (scalar : IsScalar entry.2) :
      IsLoopEntry entry
  | items {entry : Node × Node} {items : List Node} (names : Names "items" entry)
      (sequence : entry.2.untagged = .seq items) (values : ∀ item ∈ items, IsJson item) :
      IsLoopEntry entry

/-- A loop has a template or items; that it has both, or neither, is refused. -/
def IsLoop (node : Node) : Prop :=
  ∃ entries, node.untagged = .map entries ∧ (∀ entry ∈ entries, IsLoopEntry entry) ∧
    ((∃ entry ∈ entries, Names "var" entry) ↔ ¬ LastFilled "items" entries)

/-- The values of a control field other than `block`. -/
def IsValue (node : Node) : ControlField → Prop
  | .name | .register => IsScalar node
  | .guards => IsGuards node
  | .environment => ∃ entries, node.untagged = .map entries ∧ ∀ entry ∈ entries, IsVariable entry
  | .loop => IsLoop node
  | .ignoreErrors => ∃ value, node.untagged = .bool value
  | .block => False

/-! ## Elements -/

/-- The name of a kind that a registry knows and no control field has. -/
def IsKind (registry : Registry) (kind : String) : Prop :=
  (∀ field : ControlField, field.text ≠ kind) ∧ registry.has kind = true

def IsTask (registry : Registry) (entry : Node × Node) : Prop :=
  ∃ kind, IsKind registry kind ∧ Names kind entry

/-- An element has a filled block, no task and no registered name, or it has no filled block and a
task. -/
inductive HasContent (registry : Registry) (entries : List (Node × Node)) : Prop where
  | block (filled : LastFilled "block" entries) (task : ∀ entry ∈ entries, ¬ IsTask registry entry)
      (register : ∀ entry ∈ entries, ¬ Names "register" entry) : HasContent registry entries
  | task (unfilled : ¬ LastFilled "block" entries)
      (task : ∃ entry ∈ entries, IsTask registry entry) : HasContent registry entries

mutual

inductive IsElement (registry : Registry) : Node → Prop where
  | intro {node : Node} {entries : List (Node × Node)} (mapping : node.untagged = .map entries)
      (fields : ∀ entry ∈ entries, IsField registry entry)
      (single : entries.Pairwise fun first second ↦
        ¬ (IsTask registry first ∧ IsTask registry second))
      (content : HasContent registry entries) : IsElement registry node

inductive IsField (registry : Registry) : Node × Node → Prop where
  | control {entry : Node × Node} {field : ControlField} (names : Names field.text entry)
      (value : IsValue entry.2 field) : IsField registry entry
  | block {entry : Node × Node} {items : List Node} (names : Names "block" entry)
      (sequence : entry.2.untagged = .seq items)
      (elements : ∀ item ∈ items, IsElement registry item) : IsField registry entry
  | task {entry : Node × Node} {config : List (Node × Node)} (task : IsTask registry entry)
      (mapping : entry.2.untagged = .map config) (json : IsJson (.map config)) :
      IsField registry entry

end

/-- Nothing, or a sequence of elements, under no tag. -/
inductive IsDocument (registry : Registry) : Node → Prop where
  | null : IsDocument registry .null
  | seq {items : List Node} (elements : ∀ item ∈ items, IsElement registry item) :
      IsDocument registry (.seq items)

end Playbook.Grammar
