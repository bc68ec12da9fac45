import Playbook.Element

/-!
# Trees of elements

The elements of one file stand in a tree addressed by slots: a block lists the slots of its
children, and a child names the slot of the block around it.
-/

namespace Playbook

/-- The elements of one file by slot, and the slots of its top-level elements in order. -/
structure Tree where
  elements : Array Element
  roots : List Slot

namespace Tree

def empty : Tree := ⟨#[], []⟩

instance : Inhabited Tree := ⟨empty⟩

def get? (tree : Tree) (slot : Slot) : Option Element :=
  tree.elements[slot]?

def size (tree : Tree) : Nat :=
  tree.elements.size

def isEmpty (tree : Tree) : Bool :=
  tree.elements.isEmpty

mutual

/-- The slots reached from `slot` along the blocks, parents first, at most `depth` levels deep. -/
def below (tree : Tree) : (depth : Nat) → Slot → List Slot
  | 0, _ => []
  | depth + 1, slot => slot :: belowAll tree depth ((tree.get? slot).elim [] (·.block))

def belowAll (tree : Tree) : (depth : Nat) → List Slot → List Slot
  | _, [] => []
  | depth, slot :: rest => below tree depth slot ++ belowAll tree depth rest

end

/-- The slots reached from the roots, parents before their children. -/
def preorder (tree : Tree) : List Slot :=
  tree.belowAll tree.size tree.roots

end Tree

end Playbook
