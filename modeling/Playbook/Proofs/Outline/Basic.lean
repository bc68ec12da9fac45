import Playbook.Document

/-!
# Outlines

An outline is an element with its children inside it, without slots and without links upwards.
Laying outlines out gives them the slots that a reader of the document hands out: an element comes
first, then what its replaced blocks held, then its children.
-/

namespace Playbook

/-- What an element says, apart from its place among the other elements. -/
structure Heading where
  name : Option String
  guards : List String
  register : Option String
  environment : Environment
  ignoreErrors : Bool
  loop : Option LoopSpec
  task : Option Invocation

namespace Heading

def blank : Heading := ⟨none, [], none, ∅, false, none, none⟩

/-- The element with this heading at some place of a tree. -/
def element (heading : Heading) (block : List Slot) (parent : Option Slot) : Element where
  name := heading.name
  block := block
  guards := heading.guards
  register := heading.register
  environment := heading.environment
  ignoreErrors := heading.ignoreErrors
  loop := heading.loop
  task := heading.task
  parent := parent

/-- The name in messages: its own, or that of its task. -/
def displayName (heading : Heading) : String :=
  match heading.name, heading.task with
  | some name, _ => name
  | none, some task => task.kind
  | none, none => "block"

@[simp] theorem element_displayName (heading : Heading) (block : List Slot)
    (parent : Option Slot) : (heading.element block parent).displayName = heading.displayName := rfl

end Heading

/-- An element with the elements inside it. The children are those of its last block; a block that
a later one of the same element replaced keeps its slots in the tree, and nothing else. -/
inductive Outline where
  | element (heading : Heading) (replaced children : List Outline)

namespace Outline

def heading : Outline → Heading
  | .element heading _ _ => heading

def replaced : Outline → List Outline
  | .element _ replaced _ => replaced

def children : Outline → List Outline
  | .element _ _ children => children

mutual

/-- How many slots an outline takes. -/
def size : Outline → Nat
  | .element _ replaced children => 1 + (sizeAll replaced + sizeAll children)

def sizeAll : List Outline → Nat
  | [] => 0
  | outline :: rest => outline.size + sizeAll rest

end

/-- The slots of outlines that stand one after another from `slot` on. -/
def slots (slot : Slot) : List Outline → List Slot
  | [] => []
  | outline :: rest => slot :: slots (slot + outline.size) rest

/-- The first slot of the children of an outline at `slot`. -/
def childSlot (slot : Nat) (outline : Outline) : Nat :=
  slot + 1 + sizeAll outline.replaced

/-- The element of an outline at `slot` itself. -/
def row (parent : Option Slot) (slot : Slot) (outline : Outline) : Element :=
  outline.heading.element (slots (outline.childSlot slot) outline.children) parent

mutual

/-- The elements in the slots of an outline that stands at `slot`. -/
def layout (parent : Option Slot) (slot : Slot) : Outline → List Element
  | .element heading replaced children =>
    row parent slot (.element heading replaced children) ::
      (layoutAll (some slot) (slot + 1) replaced ++
        layoutAll (some slot) (slot + 1 + sizeAll replaced) children)

def layoutAll (parent : Option Slot) (slot : Slot) : List Outline → List Element
  | [] => []
  | outline :: rest => layout parent slot outline ++ layoutAll parent (slot + outline.size) rest

end

/-- The elements below an outline at `slot`. -/
def inner (slot : Slot) (outline : Outline) : List Element :=
  layoutAll (some slot) (slot + 1) outline.replaced ++
    layoutAll (some slot) (outline.childSlot slot) outline.children

/-- The tree of the top-level outlines of a document. -/
def tree (outlines : List Outline) : Tree :=
  ⟨(layoutAll none 0 outlines).toArray, slots 0 outlines⟩

theorem layout_eq (parent : Option Slot) (slot : Slot) (outline : Outline) :
    outline.layout parent slot = outline.row parent slot :: outline.inner slot := by
  cases outline
  rfl

theorem size_eq (outline : Outline) :
    outline.size = 1 + (sizeAll outline.replaced + sizeAll outline.children) := by
  cases outline
  rfl

theorem size_pos (outline : Outline) : 0 < outline.size := by
  rw [size_eq]
  omega

theorem sizeAll_append (first second : List Outline) :
    sizeAll (first ++ second) = sizeAll first + sizeAll second := by
  induction first with
  | nil => simp [sizeAll]
  | cons outline rest ih => simp only [List.cons_append, sizeAll, ih, Nat.add_assoc]

theorem layoutAll_append (parent : Option Slot) (slot : Slot) (first second : List Outline) :
    layoutAll parent slot (first ++ second) =
      layoutAll parent slot first ++ layoutAll parent (slot + sizeAll first) second := by
  induction first generalizing slot with
  | nil => simp [layoutAll, sizeAll]
  | cons outline rest ih =>
    simp only [List.cons_append, layoutAll, sizeAll, ih, List.append_assoc, Nat.add_assoc]

mutual

@[simp] theorem length_layout (parent : Option Slot) (slot : Slot) :
    (outline : Outline) → (outline.layout parent slot).length = outline.size
  | .element _ replaced children => by
    simp only [layout, size, List.length_cons, List.length_append, length_layoutAll]
    omega

@[simp] theorem length_layoutAll (parent : Option Slot) (slot : Slot) :
    (outlines : List Outline) → (layoutAll parent slot outlines).length = sizeAll outlines
  | [] => rfl
  | outline :: rest => by
    simp only [layoutAll, sizeAll, List.length_append, length_layout, length_layoutAll]

end

theorem size_tree (outlines : List Outline) : (tree outlines).size = sizeAll outlines := by
  simp [tree, Tree.size]

end Outline

end Playbook
