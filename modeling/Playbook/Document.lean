import Playbook.Registry
import Playbook.Text.Blank
import Playbook.Tree
import Playbook.Yaml.Reading

/-!
# Playbook documents

A playbook is a sequence of elements. Every key of an element is a control field or the name of a
registered task kind, and the first fault refuses the whole document. An element gets its slot
before its children get theirs, so slots ascend in document order.
-/

namespace Playbook

namespace Document

open Yaml (Node Kind)

def unexpected (location : Location) (expected : Shape) (found : Kind) : ParseError :=
  .unexpectedNode location expected found

def keyText (location : Location) (key : Node) : Except ParseError String :=
  match key.string? with
  | some text => .ok text
  | none => .error (unexpected location .stringKey key.kind)

def scalarText (location : Location) (node : Node) : Except ParseError String :=
  match node.scalar? with
  | some text => .ok text
  | none => .error (unexpected location .scalar node.kind)

def parseConditions (location : Location) : (position : Nat) → List Node →
    Except ParseError (List String)
  | _, [] => .ok []
  | position, node :: rest =>
    match scalarText (location.item position) node with
    | .error error => .error error
    | .ok condition =>
      (parseConditions location (position + 1) rest).map (Template.ofCondition condition :: ·)

def parseGuards (location : Location) (node : Node) : Except ParseError (List String) :=
  match node with
  | .seq conditions => parseConditions location 0 conditions
  | node => (scalarText location node).map fun condition ↦ [Template.ofCondition condition]

def parseVariables (location : Location) (environment : Environment) :
    List (Node × Node) → Except ParseError Environment
  | [] => .ok environment
  | (key, value) :: rest =>
    match keyText location key with
    | .error error => .error error
    | .ok key =>
      match scalarText (location.field key) value with
      | .error error => .error error
      | .ok value => parseVariables location (environment.insert key value) rest

def parseEnvironment (location : Location) (node : Node) : Except ParseError Environment :=
  match node.map? with
  | some entries => parseVariables location ∅ entries
  | none => .error (unexpected location .mapping node.kind)

def parseLoopItems (location : Location) (node : Node) : Except ParseError (List Json) :=
  match node.seq? with
  | none => .error (unexpected (location.field "items") .sequence node.kind)
  | some nodes =>
    match Node.itemsToJson nodes with
    | .ok items => .ok items
    | .error fault => .error (.invalidField location "items" fault.message)

/-- Reads the entries of a loop after the template and the items found so far. -/
def parseLoopParts (location : Location) (var : Option String) (items : Option (List Json)) :
    List (Node × Node) → Except ParseError (Option String × Option (List Json))
  | [] => .ok (var, items)
  | (key, value) :: rest =>
    match keyText location key with
    | .error error => .error error
    | .ok key =>
      if key = "var" then
        match scalarText (location.field key) value with
        | .error error => .error error
        | .ok template => parseLoopParts location (some template) items rest
      else if key = "items" then
        match parseLoopItems location value with
        | .error error => .error error
        | .ok items => parseLoopParts location var (some items) rest
      else .error (.unknownField location key)

def parseLoop (location : Location) (node : Node) : Except ParseError LoopSpec :=
  match node.map? with
  | none => .error (unexpected location .mapping node.kind)
  | some entries =>
    match parseLoopParts location none none entries with
    | .error error => .error error
    | .ok (var, items) =>
      match LoopSpec.ofParts var items with
      | .ok loop => .ok loop
      | .error fault => .error (.invalidElement location fault.message)

def parseIgnoreErrors (location : Location) (node : Node) : Except ParseError Bool :=
  match node.bool? with
  | some value => .ok value
  | none => .error (unexpected location .boolean node.kind)

def parseTask (location : Location) (kind : String) (node : Node) :
    Except ParseError Invocation :=
  match node.map? with
  | none =>
    .error (.invalidField location kind
      ("Task config must be a mapping, found " ++ node.kind.name))
  | some _ =>
    match node.toJson with
    | .ok (.obj config) => .ok ⟨kind, config⟩
    | .ok _ => .error (.invalidField location kind "Task config must be a mapping")
    | .error fault => .error (.invalidField location kind fault.message)

/-- Puts the value of a control field other than `block` into an element. -/
def parseField (location : Location) (field : ControlField) (node : Node) (element : Element) :
    Except ParseError Element :=
  match field with
  | .name => (scalarText location node).map fun text ↦ { element with name := some text }
  | .register => (scalarText location node).map fun text ↦ { element with register := some text }
  | .guards => (parseGuards location node).map fun guards ↦ { element with guards }
  | .environment =>
    (parseEnvironment location node).map fun environment ↦ { element with environment }
  | .loop => (parseLoop location node).map fun loop ↦ { element with loop := some loop }
  | .ignoreErrors =>
    (parseIgnoreErrors location node).map fun ignoreErrors ↦ { element with ignoreErrors }
  | .block => .ok element

mutual

/-- Reads an element that may stand under tags; `found` is the kind of the outermost node. -/
def parseElement (registry : Registry) (location : Location) (parent : Option Slot) (found : Kind) :
    Node → Array Element → Except ParseError (Slot × Array Element)
  | .map entries, elements =>
    let slot := elements.size
    match parseEntries registry location slot entries (.bare parent)
        (elements.push (.bare parent)) with
    | .error error => .error error
    | .ok (element, elements) =>
      match element.validate with
      | .ok () => .ok (slot, elements.setIfInBounds slot element)
      | .error fault => .error (.invalidElement location fault.message)
  | .tagged _ content, elements => parseElement registry location parent found content elements
  | _, _ => .error (unexpected location .mapping found)

/-- Reads the entries of the element at `slot` into it. -/
def parseEntries (registry : Registry) (location : Location) (slot : Slot) :
    List (Node × Node) → Element → Array Element → Except ParseError (Element × Array Element)
  | [], element, elements => .ok (element, elements)
  | (key, value) :: rest, element, elements =>
    match keyText location key with
    | .error error => .error error
    | .ok key =>
      match ControlField.ofKey? key with
      | some .block =>
        match parseBlock registry (location.field key) slot value.kind value elements with
        | .error error => .error error
        | .ok (block, elements) =>
          parseEntries registry location slot rest { element with block } elements
      | some field =>
        match parseField (location.field key) field value element with
        | .error error => .error error
        | .ok element => parseEntries registry location slot rest element elements
      | none =>
        if registry.has key then
          match element.task with
          | some existing => .error (.duplicateTask location existing.kind key)
          | none =>
            match parseTask (location.field key) key value with
            | .error error => .error error
            | .ok task =>
              parseEntries registry location slot rest { element with task := some task } elements
        else .error (.unknownField location key)

/-- Reads the children of the element at `slot`, a sequence that may stand under tags. -/
def parseBlock (registry : Registry) (location : Location) (slot : Slot) (found : Kind) :
    Node → Array Element → Except ParseError (List Slot × Array Element)
  | .seq nodes, elements => parseItems registry location (some slot) 0 nodes elements
  | .tagged _ content, elements => parseBlock registry location slot found content elements
  | _, _ => .error (unexpected location .sequence found)

/-- Reads a sequence of elements, the first of which stands at `position`. -/
def parseItems (registry : Registry) (location : Location) (parent : Option Slot) :
    (position : Nat) → List Node → Array Element → Except ParseError (List Slot × Array Element)
  | _, [], elements => .ok ([], elements)
  | position, node :: rest, elements =>
    match parseElement registry (location.item position) parent node.kind node elements with
    | .error error => .error error
    | .ok (slot, elements) =>
      match parseItems registry location parent (position + 1) rest elements with
      | .error error => .error error
      | .ok (slots, elements) => .ok (slot :: slots, elements)

end

/-- The tree of a document node: of an untagged sequence its elements, of null none. -/
def ofNode (registry : Registry) (document : Node) : Except ParseError Tree :=
  match document with
  | .null => .ok .empty
  | .seq nodes =>
    (parseItems registry [] none 0 nodes #[]).map fun (roots, elements) ↦ ⟨elements, roots⟩
  | other => .error (unexpected .document .sequence other.kind)

def isBlankText (text : String) : Bool :=
  text.toList.all Text.isBlank

/-- The tree of a document text; a blank text is an empty playbook. -/
def ofText (registry : Registry) (text : String) : Except ParseError Tree :=
  if isBlankText text then .ok .empty
  else match Node.parse text with
    | .ok document => ofNode registry document
    | .error fault => .error (.yaml fault)

end Document

end Playbook
