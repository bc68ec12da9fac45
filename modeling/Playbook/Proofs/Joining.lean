import Playbook.Proofs.Concatenation
import Playbook.Proofs.Outline.Faults

/-!
# Joining documents

A document that consists of two sequences is read like the two of them. Its tree has the elements
of the first tree and behind them those of the second, whose links all lead that many slots further;
and what is wrong in the second sequence is wrong there at a later position.
-/

namespace Playbook

open Yaml (Node)

/-! ## Trees behind each other -/

/-- The element in a tree that stands behind others. -/
def Element.shifted (offset : Nat) (element : Element) : Element :=
  { element with
    block := element.block.map (· + offset)
    parent := element.parent.map (· + offset) }

/-- The elements and roots of one tree, and behind them those of another. -/
def Tree.append (first second : Tree) : Tree where
  elements := first.elements ++ second.elements.map (·.shifted first.size)
  roots := first.roots ++ second.roots.map (· + first.size)

theorem Tree.toList_append (first second : Tree) : (first.append second).elements.toList =
    first.elements.toList ++ second.elements.toList.map (·.shifted first.size) := by
  rw [append, Array.toList_append, Array.toList_map]

namespace Outline

theorem slots_append (slot : Slot) (first second : List Outline) :
    slots slot (first ++ second) = slots slot first ++ slots (slot + sizeAll first) second := by
  induction first generalizing slot with
  | nil => rfl
  | cons outline rest ih =>
    simp only [List.cons_append, slots, sizeAll, ih, Nat.add_assoc]

theorem slots_shifted (offset slot : Nat) (outlines : List Outline) :
    slots (slot + offset) outlines = (slots slot outlines).map (· + offset) := by
  induction outlines generalizing slot with
  | nil => rfl
  | cons outline rest ih =>
    rw [slots, slots, Nat.add_right_comm, ih, List.map_cons]

theorem row_shifted (offset : Nat) (parent : Option Slot) (slot : Slot) (outline : Outline) :
    row (parent.map (· + offset)) (slot + offset) outline =
      (row parent slot outline).shifted offset := by
  have hchild : childSlot (slot + offset) outline = childSlot slot outline + offset := by
    rw [childSlot, childSlot]
    omega
  rw [row, row, hchild, slots_shifted]
  rfl

mutual

theorem layout_shifted (offset : Nat) (parent : Option Slot) (slot : Slot) :
    (outline : Outline) → outline.layout (parent.map (· + offset)) (slot + offset) =
      (outline.layout parent slot).map (·.shifted offset)
  | .element heading replaced children => by
    have hreplaced := layoutAll_shifted offset (some slot) (slot + 1) replaced
    have hchildren := layoutAll_shifted offset (some slot) (slot + 1 + sizeAll replaced) children
    rw [Option.map_some, Nat.add_right_comm slot 1 offset] at hreplaced
    rw [Option.map_some, Nat.add_right_comm _ (sizeAll replaced) offset,
      Nat.add_right_comm slot 1 offset] at hchildren
    rw [layout, layout, List.map_cons, List.map_append, ← row_shifted, hreplaced, hchildren]

theorem layoutAll_shifted (offset : Nat) (parent : Option Slot) (slot : Slot) :
    (outlines : List Outline) → layoutAll (parent.map (· + offset)) (slot + offset) outlines =
      (layoutAll parent slot outlines).map (·.shifted offset)
  | [] => rfl
  | outline :: rest => by
    rw [layoutAll, layoutAll, layout_shifted, Nat.add_right_comm, layoutAll_shifted,
      List.map_append]

end

theorem tree_append (first second : List Outline) :
    tree (first ++ second) = (tree first).append (tree second) := by
  have hlayout := layoutAll_shifted (sizeAll first) none 0 second
  have hslots := slots_shifted (sizeAll first) 0 second
  rw [Option.map_none] at hlayout
  rw [Tree.append, size_tree, tree, layoutAll_append, slots_append, hlayout, hslots]
  simp [tree]

end Outline

/-! ## Errors further behind -/

/-- The place in a sequence that has so many more items at its front. -/
def Location.behind (offset : Nat) : Location → Location
  | .index position :: rest => .index (position + offset) :: rest
  | other => other

/-- The error in a sequence that has so many more items at its front. -/
def ParseError.behind (offset : Nat) (error : ParseError) : ParseError :=
  error.mapLocation (Location.behind offset)

namespace Outline

variable (registry : Registry)

/-- An item is read as at the root of a document, and its errors lie below its position. -/
theorem read_item (position : Nat) (node : Node) :
    read registry (Location.item [] position) node.kind node =
      (read registry [] node.kind node).mapError (·.below [.index position]) :=
  read_below [.index position] registry node.kind [] node

theorem readItems_behind (offset position : Nat) (nodes : List Node) :
    readItems registry [] (position + offset) nodes =
      (readItems registry [] position nodes).mapError (·.behind offset) := by
  induction nodes generalizing position with
  | nil => rfl
  | cons node rest ih =>
    have hnext : position + offset + 1 = position + 1 + offset :=
      Nat.add_right_comm position offset 1
    rw [readItems, readItems, read_item, read_item, hnext, ih]
    cases read registry [] node.kind node with
    | error error =>
      have hbehind : error.below [.index (position + offset)] =
          (error.below [.index position]).behind offset := by
        cases error <;> rfl
      exact congrArg Except.error hbehind
    | ok outline => exact mapError_map _ _ _

/-- What is wrong in a sequence is wrong in one of its items. -/
theorem location?_of_readItems {position : Nat} {nodes : List Node} {error : ParseError}
    (h : readItems registry [] position nodes = .error error) :
    ∃ index rest, index < nodes.length ∧
      error.location? = some (.index (position + index) :: rest) := by
  induction nodes generalizing position with
  | nil => cases h
  | cons node rest ih =>
    rw [readItems, read_item] at h
    cases hread : read registry [] node.kind node with
    | error cause =>
      rw [hread] at h
      obtain rfl := Except.error.inj h
      have hplaced := Placed.read registry node.kind [] node
      rw [hread] at hplaced
      obtain ⟨place, hplace⟩ := Option.isSome_iff_exists.mp hplaced
      refine ⟨0, place, Nat.zero_lt_succ rest.length, ?_⟩
      have hbelow := ParseError.location?_mapLocation ([.index position] ++ ·) cause
      rw [← ParseError.below_eq, hplace] at hbelow
      exact hbelow
    | ok outline =>
      rw [hread] at h
      cases hrest : readItems registry [] (position + 1) rest with
      | ok outlines =>
        rw [hrest] at h
        cases h
      | error cause =>
        rw [hrest] at h
        obtain rfl := Except.error.inj h
        obtain ⟨index, place, hlt, hplace⟩ := ih hrest
        refine ⟨index + 1, place, Nat.succ_lt_succ hlt, ?_⟩
        rw [hplace, Nat.add_right_comm position 1 index, Nat.add_assoc]

end Outline

open Outline

/-- A document that consists of two sequences is refused with the error of the first; or else with
that of the second, in whose place the position in the sequence grows by the length of the first; or
else it has the tree of the first and behind it that of the second. -/
theorem ofNode_append (registry : Registry) (first second : List Node) :
    (Document.ofNode registry (.seq (first ++ second)) = do
      let tree ← Document.ofNode registry (.seq first)
      let other ← (Document.ofNode registry (.seq second)).mapError (·.behind first.length)
      return tree.append other) ∧
    ∀ error, Document.ofNode registry (.seq second) = .error error →
      ∃ index rest, index < second.length ∧ error.location? = some (.index index :: rest) ∧
        (error.behind first.length).location? = some (.index (index + first.length) :: rest) := by
  rw [ofNode_seq, ofNode_seq, ofNode_seq]
  constructor
  · have hsecond := readItems_behind registry first.length 0 second
    rw [readItems_append, hsecond]
    cases readItems registry [] 0 first with
    | error error => rfl
    | ok outlines =>
      cases readItems registry [] 0 second with
      | error error => rfl
      | ok others => exact congrArg Except.ok (tree_append outlines others)
  · intro error herror
    cases hread : readItems registry [] 0 second with
    | ok outlines =>
      rw [hread] at herror
      cases herror
    | error cause =>
      rw [hread] at herror
      obtain rfl := Except.error.inj herror
      obtain ⟨index, rest, hlt, hplace⟩ := location?_of_readItems registry hread
      rw [Nat.zero_add] at hplace
      refine ⟨index, rest, hlt, hplace, ?_⟩
      rw [ParseError.behind, ParseError.location?_mapLocation, hplace]
      rfl

/-- A block behind a task, and behind it an element with nothing in it. -/
theorem ofNode_append_group :
    let registry : Registry := ⟨.ofList [("echo", .echo)]⟩
    let task : Node := .map [(.str "echo", .map [])]
    let group : Node := .map [(.str "block", .seq [task])]
    ∃ tree other error, Document.ofNode registry (.seq [task]) = .ok tree ∧
      Document.ofNode registry (.seq [group]) = .ok other ∧
      Document.ofNode registry (.seq ([task] ++ [group])) = .ok (tree.append other) ∧
      (tree.append other).roots = [0, 1] ∧
      (tree.append other).elements.toList.map (·.block) = [[], [2], []] ∧
      (tree.append other).elements.toList.map (·.parent) = [none, none, some 1] ∧
      Document.ofNode registry (.seq ([task] ++ [group, .map []])) = .error error ∧
      error.location? = some [.index 2] := by
  intro registry task group
  obtain ⟨tree, other, error, htree, hother, herror, htrees, hplace⟩ : ∃ tree other error,
      Document.ofNode registry (.seq [task]) = .ok tree ∧
      Document.ofNode registry (.seq [group]) = .ok other ∧
      Document.ofNode registry (.seq [group, .map []]) = .error error ∧
      ((tree.append other).roots = [0, 1] ∧
        (tree.append other).elements.toList.map (·.block) = [[], [2], []] ∧
        (tree.append other).elements.toList.map (·.parent) = [none, none, some 1]) ∧
      (error.behind 1).location? = some [.index 2] :=
    ⟨_, _, _, rfl, rfl, rfl,
      ⟨rfl, by rw [Tree.toList_append]; rfl, by rw [Tree.toList_append]; rfl⟩, rfl⟩
  obtain ⟨hroots, hblocks, hparents⟩ := htrees
  refine ⟨tree, other, error.behind 1, htree, hother, ?_, hroots, hblocks, hparents, ?_, hplace⟩
  · rw [(ofNode_append registry [task] [group]).1, htree, hother]
    rfl
  · rw [(ofNode_append registry [task] [group, .map []]).1, htree, herror]
    rfl

end Playbook
