import Playbook.Proofs.Outline.Basic

/-!
# Reading outlines

Outlines read straight from the nodes of a document. Reading a document into a tree is the same as
reading its outlines and laying them out, errors included, so everything that holds of all laid-out
outlines holds of every tree that comes from a document.
-/

namespace Playbook

namespace Outline

open Document
open Yaml (Node Kind)

/-- Puts the value of a control field other than `block` into a heading. -/
def readField (location : Location) (field : ControlField) (node : Node) (heading : Heading) :
    Except ParseError Heading :=
  match field with
  | .name => (scalarText location node).map fun text ↦ { heading with name := some text }
  | .register => (scalarText location node).map fun text ↦ { heading with register := some text }
  | .guards => (parseGuards location node).map fun guards ↦ { heading with guards }
  | .environment =>
    (parseEnvironment location node).map fun environment ↦ { heading with environment }
  | .loop => (parseLoop location node).map fun loop ↦ { heading with loop := some loop }
  | .ignoreErrors =>
    (parseIgnoreErrors location node).map fun ignoreErrors ↦ { heading with ignoreErrors }
  | .block => .ok heading

def blank : Outline := .element .blank [] []

def withHeading (outline : Outline) (heading : Heading) : Outline :=
  .element heading outline.replaced outline.children

def withTask (outline : Outline) (task : Invocation) : Outline :=
  outline.withHeading { outline.heading with task := some task }

/-- The outline with the children of one more block, which replaces the blocks before it. -/
def withBlock (outline : Outline) (block : List Outline) : Outline :=
  .element outline.heading (outline.replaced ++ outline.children) block

/-- A block has children, and neither a task nor a registered name; without children there is a
task. -/
def validate (outline : Outline) : Except Element.Fault Unit :=
  if outline.children.isEmpty then
    if outline.heading.task.isNone then .error .noContent else .ok ()
  else if outline.heading.register.isSome then .error .blockWithRegister
  else if outline.heading.task.isSome then .error .blockWithTask
  else .ok ()

mutual

/-- Reads an element that may stand under tags; `found` is the kind of the outermost node. -/
def read (registry : Registry) (location : Location) (found : Kind) :
    Node → Except ParseError Outline
  | .map entries =>
    match readEntries registry location entries blank with
    | .error error => .error error
    | .ok outline =>
      match outline.validate with
      | .ok () => .ok outline
      | .error fault => .error (.invalidElement location fault.message)
  | .tagged _ content => read registry location found content
  | _ => .error (unexpected location .mapping found)

/-- Reads the entries of an element on top of what earlier entries gave. -/
def readEntries (registry : Registry) (location : Location) :
    List (Node × Node) → Outline → Except ParseError Outline
  | [], outline => .ok outline
  | entry :: rest, outline =>
    match readEntry registry location entry outline with
    | .error error => .error error
    | .ok outline => readEntries registry location rest outline

def readEntry (registry : Registry) (location : Location) :
    Node × Node → Outline → Except ParseError Outline
  | (key, value), outline =>
    match keyText location key with
    | .error error => .error error
    | .ok key =>
      match ControlField.ofKey? key with
      | some .block =>
        (readBlock registry (location.field key) value.kind value).map outline.withBlock
      | some field =>
        (readField (location.field key) field value outline.heading).map outline.withHeading
      | none =>
        if registry.has key then
          match outline.heading.task with
          | some existing => .error (.duplicateTask location existing.kind key)
          | none => (parseTask (location.field key) key value).map outline.withTask
        else .error (.unknownField location key)

/-- Reads a block, a sequence that may stand under tags. -/
def readBlock (registry : Registry) (location : Location) (found : Kind) :
    Node → Except ParseError (List Outline)
  | .seq nodes => readItems registry location 0 nodes
  | .tagged _ content => readBlock registry location found content
  | _ => .error (unexpected location .sequence found)

/-- Reads a sequence of elements, the first of which stands at `position`. -/
def readItems (registry : Registry) (location : Location) :
    (position : Nat) → List Node → Except ParseError (List Outline)
  | _, [] => .ok []
  | position, node :: rest =>
    match read registry (location.item position) node.kind node with
    | .error error => .error error
    | .ok outline => (readItems registry location (position + 1) rest).map (outline :: ·)

end

/-- The outlines of a document node: of an untagged sequence its elements, of null none. -/
def ofNode (registry : Registry) (document : Node) : Except ParseError (List Outline) :=
  match document with
  | .null => .ok []
  | .seq nodes => readItems registry [] 0 nodes
  | other => .error (unexpected .document .sequence other.kind)

/-- The outlines of a document text; a blank text has none. -/
def ofText (registry : Registry) (text : String) : Except ParseError (List Outline) :=
  if isBlankText text then .ok []
  else match Node.parse text with
    | .ok document => ofNode registry document
    | .error fault => .error (.yaml fault)

/-! ## What one entry does -/

theorem map_eq_ok {ε α β : Type} {x : Except ε α} {f : α → β} {b : β} :
    x.map f = .ok b ↔ ∃ a, x = .ok a ∧ f a = b := by
  cases x <;> simp [Except.map]

theorem map_map {ε α β γ : Type} (x : Except ε α) (f : α → β) (g : β → γ) :
    (x.map f).map g = x.map fun a ↦ g (f a) := by
  cases x <;> rfl

theorem keyText_eq_ok {location : Location} {key : Node} {text : String} :
    keyText location key = .ok text ↔ key.string? = some text := by
  unfold keyText
  cases key.string? <;> simp

theorem ofKey?_eq_some {key : String} {field : ControlField} :
    ControlField.ofKey? key = some field ↔ field.text = key := by
  constructor
  · intro h
    rw [ControlField.ofKey?] at h
    have hfound := List.find?_some h
    exact beq_iff_eq.mp hfound
  · rintro rfl
    cases field <;> rfl

theorem ofKey?_eq_none {kind : String} :
    ControlField.ofKey? kind = none ↔ ∀ field : ControlField, field.text ≠ kind := by
  constructor
  · rintro hnone field rfl
    cases (ofKey?_eq_some.mpr rfl).symm.trans hnone
  · intro hother
    cases hfield : ControlField.ofKey? kind with
    | none => rfl
    | some field => exact absurd (ofKey?_eq_some.mp hfield) (hother field)

theorem text_ne_block {field : ControlField} (h : field ≠ .block) : field.text ≠ "block" := by
  cases field
  case block => exact absurd rfl h
  all_goals decide

/-- An entry with the given key and value reads into an outline and gives another. -/
inductive Reads (registry : Registry) (location : Location) (value : Node) (outline : Outline) :
    String → Outline → Prop where
  | block {block : List Outline}
      (read : readBlock registry (location.field "block") value.kind value = .ok block) :
      Reads registry location value outline "block" (outline.withBlock block)
  | field {field : ControlField} {heading : Heading} (other : field ≠ .block)
      (read : readField (location.field field.text) field value outline.heading = .ok heading) :
      Reads registry location value outline field.text (outline.withHeading heading)
  | task {kind : String} {task : Invocation} (free : ControlField.ofKey? kind = none)
      (registered : registry.has kind = true) (first : outline.heading.task = none)
      (read : parseTask (location.field kind) kind value = .ok task) :
      Reads registry location value outline kind (outline.withTask task)

theorem readEntry_eq_ok {registry : Registry} {location : Location} {key value : Node}
    {outline after : Outline} :
    readEntry registry location (key, value) outline = .ok after ↔
      ∃ text, key.string? = some text ∧ Reads registry location value outline text after := by
  constructor
  · intro h
    rw [readEntry] at h
    cases hkey : keyText location key with
    | error error => simp [hkey] at h
    | ok text =>
      refine ⟨text, keyText_eq_ok.mp hkey, ?_⟩
      simp only [hkey] at h
      cases hfield : ControlField.ofKey? text with
      | none =>
        simp only [hfield] at h
        split at h
        · next hregistered =>
          cases hfirst : outline.heading.task with
          | some existing => simp [hfirst] at h
          | none =>
            simp only [hfirst] at h
            obtain ⟨task, hread, rfl⟩ := map_eq_ok.mp h
            exact .task hfield hregistered hfirst hread
        · cases h
      | some field =>
        obtain rfl := ofKey?_eq_some.mp hfield
        cases field
        case block =>
          simp only [hfield] at h
          obtain ⟨block, hread, rfl⟩ := map_eq_ok.mp h
          exact .block hread
        all_goals
          simp only [hfield] at h
          obtain ⟨heading, hread, rfl⟩ := map_eq_ok.mp h
          exact .field (by decide) hread
  · rintro ⟨text, hkey, hreads⟩
    rw [readEntry, keyText_eq_ok.mpr hkey]
    cases hreads with
    | block read =>
      have hfield : ControlField.ofKey? "block" = some .block := rfl
      simp only [hfield, read, Except.map]
    | @field field heading other read =>
      have hfield := ofKey?_eq_some.mpr (rfl : field.text = field.text)
      cases field
      case block => exact absurd rfl other
      all_goals simp only [hfield, read, Except.map]
    | task free registered first read =>
      simp only [free, registered, first, read, if_true, Except.map]

theorem length_readItems {registry : Registry} {location : Location} {position : Nat}
    {nodes : List Node} {outlines : List Outline}
    (h : readItems registry location position nodes = .ok outlines) :
    outlines.length = nodes.length := by
  induction nodes generalizing position outlines with
  | nil =>
    cases h
    rfl
  | cons node rest ih =>
    rw [readItems] at h
    split at h
    · cases h
    · obtain ⟨others, hothers, rfl⟩ := map_eq_ok.mp h
      rw [List.length_cons, List.length_cons, ih hothers]

/-- What a block holds stands in a sequence, and there is something in both or in neither. -/
theorem exists_items_of_readBlock {registry : Registry} {location : Location} {found : Kind}
    {block : List Outline} : (node : Node) → readBlock registry location found node = .ok block →
    ∃ items, node.untagged = .seq items ∧ (block = [] ↔ items = [])
  | .seq nodes, h => by
    rw [readBlock] at h
    refine ⟨nodes, rfl, ?_⟩
    rw [← List.length_eq_zero_iff, ← List.length_eq_zero_iff, length_readItems h]
  | .tagged _ content, h => by
    rw [readBlock] at h
    exact exists_items_of_readBlock content h
  | .null, h | .bool _, h | .int _, h | .float _, h | .str _, h | .map _, h => nomatch h

/-! ## Entries of one element -/

/-- A field of an element is read into its heading and touches nothing else. -/
theorem parseField_element (location : Location) (field : ControlField) (node : Node)
    (heading : Heading) (block : List Slot) (parent : Option Slot) :
    parseField location field node (heading.element block parent) =
      (readField location field node heading).map (·.element block parent) := by
  cases field
  case block => rfl
  all_goals
    simp only [parseField, readField, map_map]
    rfl

theorem slots_isEmpty (slot : Slot) (outlines : List Outline) :
    (slots slot outlines).isEmpty = outlines.isEmpty := by
  cases outlines <;> rfl

theorem validate_row (parent : Option Slot) (slot : Slot) (outline : Outline) :
    (outline.row parent slot).validate = outline.validate := by
  simp only [Element.validate, Element.isBlock, row, Heading.element, slots_isEmpty, validate]
  cases outline.children.isEmpty <;> rfl

@[simp] theorem row_blank (parent : Option Slot) (slot : Slot) :
    blank.row parent slot = .bare parent := rfl

@[simp] theorem inner_blank (slot : Slot) : blank.inner slot = [] := rfl

theorem row_withBlock (parent : Option Slot) (slot : Slot) (outline : Outline)
    (block : List Outline) :
    (outline.withBlock block).row parent slot =
      outline.heading.element (slots (slot + 1 + (outline.inner slot).length) block) parent := by
  cases outline
  simp [row, withBlock, childSlot, inner, Outline.heading, Outline.children, Outline.replaced,
    sizeAll_append]

theorem inner_withBlock (slot : Slot) (outline : Outline) (block : List Outline) :
    (outline.withBlock block).inner slot =
      outline.inner slot ++
        layoutAll (some slot) (slot + 1 + (outline.inner slot).length) block := by
  cases outline
  simp [withBlock, childSlot, inner, Outline.children, Outline.replaced, layoutAll_append,
    sizeAll_append, Nat.add_assoc]

/-- The finished element takes the place of its placeholder. -/
theorem setIfInBounds_placeholder (elements : Array Element) (placeholder element : Element)
    (later : List Element) :
    (elements.push placeholder ++ later.toArray).setIfInBounds elements.size element =
      elements ++ (element :: later).toArray := by
  apply Array.ext'
  simp

/-! ## Reading is laying out what was read -/

mutual

/-- An element is read into the next free slots, whatever was read before. -/
theorem parseElement_eq_layout (registry : Registry) (location : Location) (parent : Option Slot)
    (found : Kind) : (node : Node) → (elements : Array Element) →
      parseElement registry location parent found node elements =
        (read registry location found node).map fun outline ↦
          (elements.size, elements ++ (outline.layout parent elements.size).toArray)
  | .map entries, elements => by
    have hentries := parseEntries_eq_layout registry location parent elements.size entries blank
      (elements.push (.bare parent)) (by simp)
    rw [row_blank, inner_blank, Array.append_empty] at hentries
    rw [parseElement, read, hentries]
    cases hread : readEntries registry location entries blank with
    | error error => rfl
    | ok outline =>
      simp only [Except.map, validate_row]
      cases hvalid : outline.validate with
      | error fault => rfl
      | ok _ => simp only [layout_eq, setIfInBounds_placeholder]
  | .tagged _ content, elements => by
    rw [parseElement, read]
    exact parseElement_eq_layout registry location parent found content elements
  | .null, _ => rfl
  | .bool _, _ => rfl
  | .int _, _ => rfl
  | .float _, _ => rfl
  | .str _, _ => rfl
  | .seq _, _ => rfl

/-- While the entries of the element at `slot` are read, its placeholder stands last in `front`,
and what its blocks held so far stands behind. -/
theorem parseEntries_eq_layout (registry : Registry) (location : Location) (parent : Option Slot)
    (slot : Slot) : (entries : List (Node × Node)) → (outline : Outline) →
      (front : Array Element) → front.size = slot + 1 →
      parseEntries registry location slot entries (outline.row parent slot)
          (front ++ (outline.inner slot).toArray) =
        (readEntries registry location entries outline).map fun outline ↦
          (outline.row parent slot, front ++ (outline.inner slot).toArray)
  | [], outline, front, hfront => rfl
  | (key, value) :: rest, outline, front, hfront => by
    rw [parseEntries, readEntries, readEntry]
    cases keyText location key with
    | error error => rfl
    | ok text =>
      dsimp only
      cases ControlField.ofKey? text with
      | none =>
        dsimp only [row, Heading.element]
        cases registry.has text with
        | false => rfl
        | true =>
          rw [if_pos rfl, if_pos rfl]
          cases outline.heading.task with
          | some existing => rfl
          | none =>
            cases parseTask (location.field text) text value with
            | error error => rfl
            | ok task =>
              exact parseEntries_eq_layout registry location parent slot rest
                (outline.withTask task) front hfront
      | some field =>
        cases field
        case block =>
          have hsize : (front ++ (outline.inner slot).toArray).size =
              slot + 1 + (outline.inner slot).length := by
            rw [Array.size_append, hfront, List.size_toArray]
          dsimp only
          rw [parseBlock_eq_layout, hsize]
          cases readBlock registry (location.field text) value.kind value with
          | error error => rfl
          | ok block =>
            have hrest := parseEntries_eq_layout registry location parent slot rest
              (outline.withBlock block) front hfront
            rw [inner_withBlock, row_withBlock, ← List.append_toArray,
              ← Array.append_assoc] at hrest
            exact hrest
        all_goals
          dsimp only
          rw [row, parseField_element]
          cases readField (location.field text) _ value outline.heading with
          | error error => rfl
          | ok heading =>
            exact parseEntries_eq_layout registry location parent slot rest
              (outline.withHeading heading) front hfront

theorem parseBlock_eq_layout (registry : Registry) (location : Location) (slot : Slot)
    (found : Kind) : (node : Node) → (elements : Array Element) →
      parseBlock registry location slot found node elements =
        (readBlock registry location found node).map fun block ↦
          (slots elements.size block,
            elements ++ (layoutAll (some slot) elements.size block).toArray)
  | .seq nodes, elements => by
    rw [parseBlock, readBlock]
    exact parseItems_eq_layout registry location (some slot) 0 nodes elements
  | .tagged _ content, elements => by
    rw [parseBlock, readBlock]
    exact parseBlock_eq_layout registry location slot found content elements
  | .null, _ => rfl
  | .bool _, _ => rfl
  | .int _, _ => rfl
  | .float _, _ => rfl
  | .str _, _ => rfl
  | .map _, _ => rfl

theorem parseItems_eq_layout (registry : Registry) (location : Location) (parent : Option Slot) :
    (position : Nat) → (nodes : List Node) → (elements : Array Element) →
      parseItems registry location parent position nodes elements =
        (readItems registry location position nodes).map fun outlines ↦
          (slots elements.size outlines,
            elements ++ (layoutAll parent elements.size outlines).toArray)
  | position, [], elements => by simp [parseItems, readItems, Except.map, slots, layoutAll]
  | position, node :: rest, elements => by
    rw [parseItems, readItems, parseElement_eq_layout]
    cases hread : read registry (location.item position) node.kind node with
    | error error => rfl
    | ok outline =>
      simp only [Except.map]
      rw [parseItems_eq_layout]
      cases hrest : readItems registry location (position + 1) rest with
      | error error => rfl
      | ok outlines => simp [Except.map, slots, layoutAll]

end

/-- The tree of a document holds its outlines in reading order. -/
theorem ofNode_eq_tree (registry : Registry) (document : Node) :
    Document.ofNode registry document = (ofNode registry document).map tree := by
  cases document
  case seq nodes =>
    simp only [Document.ofNode, ofNode, parseItems_eq_layout]
    cases readItems registry [] 0 nodes <;> simp [Except.map, tree]
  all_goals rfl

theorem ofText_eq_tree (registry : Registry) (text : String) :
    Document.ofText registry text = (ofText registry text).map tree := by
  simp only [Document.ofText, ofText]
  split
  · rfl
  · cases Node.parse text with
    | error fault => rfl
    | ok document => exact ofNode_eq_tree registry document

end Outline

end Playbook
