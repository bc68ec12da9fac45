import Playbook.Proofs.Outline.Basic

/-!
# Outlines in a tree

What a tree holds when outlines were laid out in it: each outline stands at its first slot, its
children stand at the slots that its element lists, and every slot of the tree is the first one of
some outline.
-/

namespace Playbook

theorem Tree.get?_lt {tree : Tree} {slot : Nat} {element : Element}
    (h : tree.get? slot = some element) : slot < tree.size :=
  (Array.getElem?_eq_some_iff.mp h).1

/-- The given elements stand in the slots from `slot` on. -/
def Tree.HoldsAt (tree : Tree) (slot : Slot) (rows : List Element) : Prop :=
  ∀ index row, rows[index]? = some row → tree.get? (slot + index) = some row

namespace Tree.HoldsAt

variable {tree : Tree} {slot : Slot} {row : Element} {rows first second : List Element}

theorem head (h : tree.HoldsAt slot (row :: rows)) : tree.get? slot = some row :=
  h 0 row rfl

theorem tail (h : tree.HoldsAt slot (row :: rows)) : tree.HoldsAt (slot + 1) rows := by
  intro index found hfound
  have hrow := h (index + 1) found hfound
  rwa [Nat.add_right_comm slot 1 index]

theorem left (h : tree.HoldsAt slot (first ++ second)) : tree.HoldsAt slot first := by
  intro index found hfound
  apply h index found
  obtain ⟨hindex, _⟩ := List.getElem?_eq_some_iff.mp hfound
  rw [List.getElem?_append_left hindex, hfound]

theorem right (h : tree.HoldsAt slot (first ++ second)) :
    tree.HoldsAt (slot + first.length) second := by
  intro index found hfound
  rw [Nat.add_assoc]
  apply h (first.length + index) found
  rw [List.getElem?_append_right (Nat.le_add_right _ _), Nat.add_sub_cancel_left, hfound]

end Tree.HoldsAt

namespace Outline

/-- The outline is laid out in a tree from `slot` on, below `parent`. -/
def StandsAt (tree : Tree) (parent : Option Slot) (slot : Slot) (outline : Outline) : Prop :=
  tree.HoldsAt slot (outline.layout parent slot)

/-- Outlines are laid out in a tree one after another from `slot` on. -/
def StandAllAt (tree : Tree) (parent : Option Slot) (slot : Slot) (outlines : List Outline) :
    Prop :=
  tree.HoldsAt slot (layoutAll parent slot outlines)

variable {tree : Tree} {parent : Option Slot} {slot : Nat} {outline : Outline}
  {outlines rest : List Outline}

namespace StandsAt

theorem get? (h : outline.StandsAt tree parent slot) :
    tree.get? slot = some (outline.row parent slot) := by
  rw [StandsAt, layout_eq] at h
  exact h.head

theorem inner (h : outline.StandsAt tree parent slot) :
    tree.HoldsAt (slot + 1) (outline.inner slot) := by
  rw [StandsAt, layout_eq] at h
  exact h.tail

theorem replaced (h : outline.StandsAt tree parent slot) :
    StandAllAt tree (some slot) (slot + 1) outline.replaced :=
  h.inner.left

theorem children (h : outline.StandsAt tree parent slot) :
    StandAllAt tree (some slot) (outline.childSlot slot) outline.children := by
  have hright := h.inner.right
  rwa [length_layoutAll] at hright

end StandsAt

namespace StandAllAt

theorem head (h : StandAllAt tree parent slot (outline :: rest)) :
    outline.StandsAt tree parent slot :=
  Tree.HoldsAt.left h

theorem tail (h : StandAllAt tree parent slot (outline :: rest)) :
    StandAllAt tree parent (slot + outline.size) rest := by
  have hright := Tree.HoldsAt.right h
  rwa [length_layout] at hright

/-- At every listed slot stands one of the outlines. -/
theorem of_mem_slots (h : StandAllAt tree parent slot outlines) {child : Nat}
    (hchild : child ∈ slots slot outlines) :
    ∃ outline ∈ outlines, outline.StandsAt tree parent child := by
  induction outlines generalizing slot with
  | nil => simp [slots] at hchild
  | cons outline rest ih =>
    rcases List.mem_cons.mp hchild with rfl | hrest
    · exact ⟨outline, List.mem_cons_self, h.head⟩
    · obtain ⟨found, hfound, hstands⟩ := ih h.tail hrest
      exact ⟨found, List.mem_cons_of_mem _ hfound, hstands⟩

end StandAllAt

/-- The tree of outlines holds them from its first slot on. -/
theorem standAllAt_tree (outlines : List Outline) :
    StandAllAt (Outline.tree outlines) none 0 outlines := by
  intro index row hrow
  simpa [Outline.tree, Tree.get?] using hrow

/-! ## Slots in order -/

theorem slots_bounds {child : Nat} (hchild : child ∈ slots slot outlines) :
    slot ≤ child ∧ child < slot + sizeAll outlines := by
  induction outlines generalizing slot with
  | nil => simp [slots] at hchild
  | cons outline rest ih =>
    have hpos := outline.size_pos
    rw [sizeAll]
    rcases List.mem_cons.mp hchild with rfl | hrest
    · omega
    · have hbounds := ih hrest
      omega

theorem slots_pairwise (slot : Nat) (outlines : List Outline) :
    (slots slot outlines).Pairwise (· < ·) := by
  induction outlines generalizing slot with
  | nil => exact List.Pairwise.nil
  | cons outline rest ih =>
    refine List.pairwise_cons.mpr ⟨fun child hchild ↦ ?_, ih _⟩
    exact Nat.lt_of_lt_of_le (Nat.lt_add_of_pos_right outline.size_pos) (slots_bounds hchild).1

theorem lt_childSlot (slot : Nat) (outline : Outline) : slot < outline.childSlot slot := by
  rw [childSlot]
  omega

/-! ## Every slot starts an outline -/

/-- A property of outlines that passes on to everything inside them. -/
def Hereditary (P : Outline → Prop) : Prop :=
  ∀ outline, P outline → ∀ inside ∈ outline.replaced ++ outline.children, P inside

mutual

/-- An outline starts at every slot of a laid-out outline. It hangs below the same parent, or below
an earlier slot of the same outline. -/
theorem StandsAt.exists_at {P : Outline → Prop} (hP : Hereditary P) :
    {outline : Outline} → {parent : Option Slot} → {slot : Nat} →
    outline.StandsAt tree parent slot → P outline → ∀ {inside : Nat}, slot ≤ inside →
    inside < slot + outline.size → ∃ above found, P found ∧ found.StandsAt tree above inside ∧
      (above = parent ∨ ∃ upper : Nat, above = some upper ∧ slot ≤ upper ∧ upper < inside)
  | .element heading replaced children, parent, slot, h, hown, inside, hle, hlt => by
    have hinner := hP _ hown
    have hfirst : StandAllAt tree (some slot) (slot + 1) replaced := h.replaced
    have hlater : StandAllAt tree (some slot) (slot + 1 + sizeAll replaced) children := h.children
    rcases Nat.eq_or_lt_of_le hle with rfl | hbelow
    · exact ⟨parent, _, hown, h, .inl rfl⟩
    · have hfound : ∃ above found, P found ∧ found.StandsAt tree above inside ∧
          (above = some slot ∨
            ∃ upper : Nat, above = some upper ∧ slot + 1 ≤ upper ∧ upper < inside) := by
        rcases Nat.lt_or_ge inside (slot + 1 + sizeAll replaced) with hreplaced | hchildren
        · exact StandAllAt.exists_at hP hfirst
            (fun outline hmem ↦ hinner outline (List.mem_append_left _ hmem)) hbelow hreplaced
        · obtain ⟨above, found, hfound, hstands, habove⟩ :=
            StandAllAt.exists_at hP hlater
              (fun outline hmem ↦ hinner outline (List.mem_append_right _ hmem)) hchildren
              (by rw [size] at hlt; omega)
          refine ⟨above, found, hfound, hstands, habove.imp_right ?_⟩
          rintro ⟨upper, rfl, hupper, hinside⟩
          exact ⟨upper, rfl, Nat.le_trans (Nat.le_add_right _ _) hupper, hinside⟩
      obtain ⟨above, found, hfound, hstands, habove⟩ := hfound
      refine ⟨above, found, hfound, hstands, .inr ?_⟩
      rcases habove with rfl | ⟨upper, rfl, hupper, hinside⟩
      · exact ⟨slot, rfl, Nat.le_refl _, hbelow⟩
      · exact ⟨upper, rfl, by omega, hinside⟩

theorem StandAllAt.exists_at {P : Outline → Prop} (hP : Hereditary P) :
    {outlines : List Outline} → {parent : Option Slot} → {slot : Nat} →
    StandAllAt tree parent slot outlines → (∀ outline ∈ outlines, P outline) →
    ∀ {inside : Nat}, slot ≤ inside → inside < slot + sizeAll outlines →
    ∃ above found, P found ∧ found.StandsAt tree above inside ∧
      (above = parent ∨ ∃ upper : Nat, above = some upper ∧ slot ≤ upper ∧ upper < inside)
  | [], _, slot, _, _, inside, hle, hlt => by
    rw [sizeAll] at hlt
    omega
  | outline :: rest, parent, slot, h, hall, inside, hle, hlt => by
    rw [sizeAll] at hlt
    rcases Nat.lt_or_ge inside (slot + outline.size) with hhead | htail
    · exact h.head.exists_at hP (hall outline List.mem_cons_self) hle hhead
    · obtain ⟨above, found, hfound, hstands, habove⟩ := StandAllAt.exists_at hP h.tail
        (fun outline hmem ↦ hall outline (List.mem_cons_of_mem _ hmem)) htail (by omega)
      refine ⟨above, found, hfound, hstands, habove.imp_right ?_⟩
      rintro ⟨upper, rfl, hupper, hinside⟩
      exact ⟨upper, rfl, by omega, hinside⟩

end

end Outline

end Playbook
