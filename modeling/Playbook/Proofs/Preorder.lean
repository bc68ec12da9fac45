import Mathlib.Tactic.TFAE
import Playbook.Proofs.Forest
import Playbook.Proofs.Grammar.Value

/-!
# Walks through trees of documents

A walk along the blocks of a tree that comes from a document meets slots in ascending order and
none twice. It meets all of them unless some element has two blocks: the later one then replaces
the earlier one, whose elements keep their slots in the tree and still name the element as their
parent, but no block lists them any more.
-/

namespace Playbook

open Yaml (Node)

namespace Outline

/-! ## Walking through a laid-out tree -/

mutual

/-- The slots that a walk from an outline at `slot` meets. -/
def visited (slot : Nat) : Outline → List Nat
  | .element _ replaced children =>
    slot :: visitedAll (slot + 1 + sizeAll replaced) children

def visitedAll (slot : Nat) : List Outline → List Nat
  | [] => []
  | outline :: rest => visited slot outline ++ visitedAll (slot + outline.size) rest

end

mutual

theorem StandsAt.below_eq {tree : Tree} : {outline : Outline} → {parent : Option Slot} →
    {slot : Nat} → outline.StandsAt tree parent slot → ∀ {depth : Nat}, outline.size ≤ depth →
    tree.below depth slot = outline.visited slot
  | .element heading replaced children, parent, slot, h, 0, hdepth => by
    have hpos := (Outline.element heading replaced children).size_pos
    omega
  | .element heading replaced children, parent, slot, h, depth + 1, hdepth => by
    have hchildren : StandAllAt tree (some slot) (slot + 1 + sizeAll replaced) children :=
      h.children
    rw [size] at hdepth
    rw [Tree.below, h.get?, visited]
    exact congrArg (slot :: ·) (hchildren.belowAll_eq (by omega))

theorem StandAllAt.belowAll_eq {tree : Tree} : {outlines : List Outline} →
    {parent : Option Slot} → {slot : Nat} → StandAllAt tree parent slot outlines →
    ∀ {depth : Nat}, sizeAll outlines ≤ depth →
    tree.belowAll depth (slots slot outlines) = visitedAll slot outlines
  | [], _, _, _, _, _ => by rw [slots, Tree.belowAll, visitedAll]
  | outline :: rest, parent, slot, h, depth, hdepth => by
    rw [sizeAll] at hdepth
    rw [slots, Tree.belowAll, visitedAll, h.head.below_eq (by omega),
      h.tail.belowAll_eq (by omega)]

end

theorem preorder_tree (outlines : List Outline) :
    (tree outlines).preorder = visitedAll 0 outlines :=
  (standAllAt_tree outlines).belowAll_eq (Nat.le_of_eq (size_tree outlines).symm)

mutual

theorem visited_sublist (slot : Nat) :
    (outline : Outline) → (outline.visited slot).Sublist (List.range' slot outline.size)
  | .element _ replaced children => by
    have hchildren := visitedAll_sublist (slot + 1 + sizeAll replaced) children
    have hall := hchildren.trans (List.sublist_append_right
      (List.range' (slot + 1) (sizeAll replaced)) _)
    rw [List.range'_append_1] at hall
    rw [visited, size, Nat.add_comm 1, List.range'_succ]
    exact hall.cons_cons slot

theorem visitedAll_sublist (slot : Nat) :
    (outlines : List Outline) → (visitedAll slot outlines).Sublist
      (List.range' slot (sizeAll outlines))
  | [] => List.Sublist.slnil
  | outline :: rest => by
    have hrest := visitedAll_sublist (slot + outline.size) rest
    rw [visitedAll, sizeAll, ← List.range'_append_1]
    exact (visited_sublist slot outline).append hrest

end

/-! ## Outlines without replaced blocks -/

/-- No element of the outline has a block that a later one replaced, unless that was empty. -/
inductive Kept : Outline → Prop where
  | intro {outline : Outline} (none : outline.replaced = [])
      (children : ∀ child ∈ outline.children, Kept child) : Kept outline

theorem kept_iff {outline : Outline} :
    outline.Kept ↔ outline.replaced = [] ∧ ∀ child ∈ outline.children, child.Kept := by
  constructor
  · rintro ⟨none, children⟩
    exact ⟨none, children⟩
  · rintro ⟨none, children⟩
    exact .intro none children

theorem sizeAll_eq_zero {outlines : List Outline} : sizeAll outlines = 0 ↔ outlines = [] := by
  constructor
  · intro h
    cases outlines with
    | nil => rfl
    | cons outline rest =>
      have hpos := outline.size_pos
      rw [sizeAll] at h
      omega
  · rintro rfl
    rfl

mutual

/-- A walk misses slots exactly when some block was replaced. -/
theorem length_visited_iff (slot : Nat) :
    (outline : Outline) → ((outline.visited slot).length = outline.size ↔ outline.Kept)
  | .element heading replaced children => by
    have hchildren := length_visitedAll_iff (slot + 1 + sizeAll replaced) children
    have hle := (visitedAll_sublist (slot + 1 + sizeAll replaced) children).length_le
    rw [List.length_range'] at hle
    rw [kept_iff, visited, size, List.length_cons]
    change _ ↔ replaced = [] ∧ ∀ child ∈ children, child.Kept
    rw [← hchildren, ← sizeAll_eq_zero]
    omega

theorem length_visitedAll_iff (slot : Nat) :
    (outlines : List Outline) → ((visitedAll slot outlines).length = sizeAll outlines ↔
      ∀ outline ∈ outlines, outline.Kept)
  | [] => by simp [visitedAll, sizeAll]
  | outline :: rest => by
    have hhead := length_visited_iff slot outline
    have htail := length_visitedAll_iff (slot + outline.size) rest
    have hle := (visited_sublist slot outline).length_le
    have hle' := (visitedAll_sublist (slot + outline.size) rest).length_le
    rw [List.length_range'] at hle hle'
    rw [List.forall_mem_cons, ← hhead, ← htail, visitedAll, sizeAll, List.length_append]
    omega

end

end Outline

/-! ## Children that no block lists -/

/-- Every element is listed in the block of its parent. -/
def Tree.Listed (tree : Tree) : Prop :=
  ∀ slot element parent, tree.get? slot = some element → element.parent = some parent →
    ∃ above, tree.get? parent = some above ∧ slot ∈ above.block

namespace Tree

variable {tree : Tree} {inside : Slot}

mutual

theorem mem_below : {depth : Nat} → {slot : Slot} → inside ∈ tree.below depth slot →
    inside = slot ∨ ∃ above element, tree.get? above = some element ∧ inside ∈ element.block
  | 0, _, h => by simp [below] at h
  | depth + 1, slot, h => by
    rw [below] at h
    rcases List.mem_cons.mp h with hslot | hbelow
    · exact .inl hslot
    · cases hget : tree.get? slot with
      | none => simp [hget, belowAll] at hbelow
      | some element =>
        simp only [hget, Option.elim_some] at hbelow
        rcases mem_belowAll hbelow with hblock | hlisted
        · exact .inr ⟨slot, element, hget, hblock⟩
        · exact .inr hlisted

/-- A walk from some slots meets these and what blocks list. -/
theorem mem_belowAll : {depth : Nat} → {slots : List Slot} →
    inside ∈ tree.belowAll depth slots →
    inside ∈ slots ∨ ∃ above element, tree.get? above = some element ∧ inside ∈ element.block
  | _, [], h => by simp [belowAll] at h
  | depth, slot :: rest, h => by
    rw [belowAll] at h
    rcases List.mem_append.mp h with hhead | htail
    · exact (mem_below hhead).imp_left fun hslot ↦ List.mem_cons.mpr (.inl hslot)
    · exact (mem_belowAll htail).imp_left (List.mem_cons_of_mem slot)

end

/-- In a forest whose walk meets every slot, parents list their children. -/
theorem WellFormed.listed {registry : Registry} (h : tree.WellFormed registry)
    (hwalk : tree.preorder = List.range tree.size) : tree.Listed := by
  intro slot element parent helement hparent
  have hmem : slot ∈ tree.preorder := by
    rw [hwalk]
    exact List.mem_range.mpr (get?_lt helement)
  rcases mem_belowAll hmem with hroot | ⟨above, found, hfound, hblock⟩
  · cases (h.root_parent slot hroot element helement).symm.trans hparent
  · have habove := h.child_parent above found hfound slot hblock element helement
    obtain rfl := Option.some.inj (hparent.symm.trans habove)
    exact ⟨found, hfound, hblock⟩

end Tree

namespace Outline

mutual

/-- The first element of a replaced block stands right behind its parent, which does not list it. -/
theorem StandsAt.kept {tree : Tree} (hlisted : tree.Listed) : {outline : Outline} →
    {parent : Option Slot} → {slot : Nat} → outline.StandsAt tree parent slot → outline.Kept
  | .element heading replaced children, parent, slot, h => by
    have hreplaced : replaced = [] := by
      cases replaced with
      | nil => rfl
      | cons first rest =>
        have hfirst : first.StandsAt tree (some slot) (slot + 1) := h.replaced.head
        obtain ⟨above, habove, hmem⟩ := hlisted (slot + 1) _ slot hfirst.get? rfl
        obtain rfl := Option.some.inj (habove.symm.trans h.get?)
        have hbounds := slots_bounds hmem
        have hpos := first.size_pos
        simp only [childSlot, Outline.replaced, sizeAll] at hbounds
        omega
    have hchildren : StandAllAt tree (some slot) (slot + 1 + sizeAll replaced) children :=
      h.children
    exact .intro hreplaced (hchildren.kept hlisted)

theorem StandAllAt.kept {tree : Tree} (hlisted : tree.Listed) : {outlines : List Outline} →
    {parent : Option Slot} → {slot : Nat} → StandAllAt tree parent slot outlines →
    ∀ outline ∈ outlines, outline.Kept
  | [], _, _, _ => by simp
  | outline :: rest, parent, slot, h =>
    List.forall_mem_cons.mpr ⟨h.head.kept hlisted, h.tail.kept hlisted⟩

end

variable {outlines : List Outline}

/-- A walk through a tree of outlines ascends. -/
theorem preorder_sublist (outlines : List Outline) :
    (tree outlines).preorder.Sublist (List.range (tree outlines).size) := by
  rw [preorder_tree, size_tree, List.range_eq_range']
  exact visitedAll_sublist 0 outlines

theorem preorder_eq_range_iff :
    (tree outlines).preorder = List.range (tree outlines).size ↔
      ∀ outline ∈ outlines, outline.Kept := by
  rw [← length_visitedAll_iff 0 outlines, ← preorder_tree, ← size_tree]
  constructor
  · intro h
    rw [h, List.length_range]
  · intro h
    apply (preorder_sublist outlines).eq_of_length
    rw [h, List.length_range]

end Outline

/-! ## Elements with two blocks -/

namespace Grammar

mutual

/-- An element, or one inside it, has a block with elements in it and another block after that. The
two keys are both `block` when tags are looked through. -/
inductive Overwrites : Node → Prop where
  | intro {node : Node} {entries : List (Node × Node)} (mapping : node.untagged = .map entries)
      (overwrite : EntriesOverwrite entries) : Overwrites node

inductive EntriesOverwrite : List (Node × Node) → Prop where
  | again {entry later : Node × Node} {item : Node} {items : List Node}
      {rest : List (Node × Node)} (names : Names "block" entry)
      (filled : entry.2.untagged = .seq (item :: items)) (mem : later ∈ rest)
      (again : Names "block" later) : EntriesOverwrite (entry :: rest)
  | inside {entry : Node × Node} {item : Node} {items : List Node} {rest : List (Node × Node)}
      (names : Names "block" entry) (sequence : entry.2.untagged = .seq items)
      (mem : item ∈ items) (overwrite : Overwrites item) : EntriesOverwrite (entry :: rest)
  | rest {entry : Node × Node} {rest : List (Node × Node)} (overwrite : EntriesOverwrite rest) :
      EntriesOverwrite (entry :: rest)

end

theorem overwrites_iff {node : Node} {entries : List (Node × Node)}
    (h : node.untagged = .map entries) : Overwrites node ↔ EntriesOverwrite entries := by
  constructor
  · rintro ⟨mapping, overwrite⟩
    obtain rfl := Node.map.inj (mapping.symm.trans h)
    exact overwrite
  · exact .intro h

variable {entry : Node × Node} {rest : List (Node × Node)}

theorem entriesOverwrite_cons_of_not (h : ¬ Names "block" entry) :
    EntriesOverwrite (entry :: rest) ↔ EntriesOverwrite rest := by
  constructor
  · intro hoverwrite
    cases hoverwrite with
    | again names => exact absurd names h
    | inside names => exact absurd names h
    | rest overwrite => exact overwrite
  · exact .rest

theorem entriesOverwrite_cons {items : List Node} (h : Names "block" entry)
    (hitems : entry.2.untagged = .seq items) :
    EntriesOverwrite (entry :: rest) ↔
      (items ≠ [] ∧ ∃ later ∈ rest, Names "block" later) ∨ (∃ item ∈ items, Overwrites item) ∨
        EntriesOverwrite rest := by
  constructor
  · intro hoverwrite
    cases hoverwrite with
    | again names filled mem again =>
      obtain rfl := Node.seq.inj (filled.symm.trans hitems)
      exact .inl ⟨List.cons_ne_nil _ _, _, mem, again⟩
    | inside names found mem overwrite =>
      obtain rfl := Node.seq.inj (found.symm.trans hitems)
      exact .inr (.inl ⟨_, mem, overwrite⟩)
    | rest overwrite => exact .inr (.inr overwrite)
  · rintro (⟨hfilled, later, hmem, hagain⟩ | ⟨item, hmem, hitem⟩ | hrest)
    · obtain ⟨item, others, rfl⟩ := List.exists_cons_of_ne_nil hfilled
      exact .again h hitems hmem hagain
    · exact .inside h hitems hmem hitem
    · exact .rest hrest

/-- Some element of the document has a block with elements in it and another block after that. -/
def SomeOverwrites (document : Node) : Prop :=
  ∃ items, document = .seq items ∧ ∃ item ∈ items, Overwrites item

end Grammar

namespace Outline

open Grammar

variable {registry : Registry} {outline after : Outline}

theorem withHeading_kept_iff {heading : Heading} :
    (outline.withHeading heading).Kept ↔ outline.Kept := by
  rw [kept_iff, kept_iff]
  rfl

theorem withBlock_kept_iff {block : List Outline} :
    (outline.withBlock block).Kept ↔
      outline.Kept ∧ outline.children = [] ∧ ∀ child ∈ block, child.Kept := by
  rw [kept_iff, kept_iff]
  change outline.replaced ++ outline.children = [] ∧ _ ↔ _
  rw [List.append_eq_nil_iff]
  constructor
  · rintro ⟨⟨hreplaced, hchildren⟩, hblock⟩
    refine ⟨⟨hreplaced, ?_⟩, hchildren, hblock⟩
    simp [hchildren]
  · rintro ⟨⟨hreplaced, -⟩, hchildren, hblock⟩
    exact ⟨⟨hreplaced, hchildren⟩, hblock⟩

mutual

theorem kept_of_read {found : Yaml.Kind} : {location : Location} → (node : Node) →
    ∀ {outline : Outline}, read registry location found node = .ok outline →
    (outline.Kept ↔ ¬ Overwrites node)
  | location, .map entries, outline, h => by
    rw [read] at h
    cases hentries : readEntries registry location entries blank with
    | error error => simp [hentries] at h
    | ok after =>
      have hkept := kept_of_readEntries entries hentries
      have hblank : blank.Kept := .intro rfl (by simp [blank, Outline.children])
      have hmapping : (Node.map entries).untagged = .map entries := rfl
      simp only [hentries] at h
      split at h
      · cases h
        rw [hkept, overwrites_iff hmapping, and_iff_right hblank, and_iff_right (.inl rfl)]
      · cases h
  | _, .tagged tag content, _, h => by
    rw [read] at h
    rw [kept_of_read content h, not_iff_not]
    constructor
    · rintro ⟨mapping, overwrite⟩
      exact .intro mapping overwrite
    · rintro ⟨mapping, overwrite⟩
      exact .intro mapping overwrite
  | _, .null, _, h => nomatch h
  | _, .bool _, _, h => nomatch h
  | _, .int _, _, h => nomatch h
  | _, .float _, _, h => nomatch h
  | _, .str _, _, h => nomatch h
  | _, .seq _, _, h => nomatch h

/-- Reading more entries keeps everything unless one of them replaces a block, of theirs or of the
entries before. -/
theorem kept_of_readEntries : {location : Location} → (entries : List (Node × Node)) →
    ∀ {outline after : Outline}, readEntries registry location entries outline = .ok after →
    (after.Kept ↔ outline.Kept ∧
      (outline.children = [] ∨ ∀ entry ∈ entries, ¬ Names "block" entry) ∧
      ¬ EntriesOverwrite entries)
  | _, [], outline, _, h => by
    cases h
    have hnone : ¬ EntriesOverwrite [] := nofun
    simp [hnone]
  | location, (key, value) :: rest, outline, after, h => by
    rw [readEntries] at h
    cases hentry : readEntry registry location (key, value) outline with
    | error error => simp [hentry] at h
    | ok next =>
      simp only [hentry] at h
      obtain ⟨text, hkey, hreads⟩ := readEntry_eq_ok.mp hentry
      have hnames : Names text (key, value) := string?_eq_some.mp hkey
      have hrest := kept_of_readEntries rest h
      cases hreads with
      | @block block read =>
        have hblock := kept_of_readBlock value read
        obtain ⟨items, hitems, hempty⟩ := exists_items_of_readBlock value read
        rw [hrest, withBlock_kept_iff, entriesOverwrite_cons hnames hitems, List.forall_mem_cons]
        change (_ ∧ _ ∧ _) ∧ (block = [] ∨ _) ∧ _ ↔ _
        rw [hempty, hblock items hitems]
        grind
      | field other read =>
        have hother : ¬ Names "block" (key, value) := fun hblock ↦
          text_ne_block other (hnames.text_eq hblock)
        rw [hrest, withHeading_kept_iff, entriesOverwrite_cons_of_not hother,
          List.forall_mem_cons, and_iff_right hother]
        rfl
      | task free registered first read =>
        have hother : ¬ Names "block" (key, value) := fun hblock ↦
          ofKey?_eq_none.mp free .block (hblock.text_eq hnames)
        rw [hrest, withTask, withHeading_kept_iff, entriesOverwrite_cons_of_not hother,
          List.forall_mem_cons, and_iff_right hother]
        rfl

theorem kept_of_readBlock {found : Yaml.Kind} : {location : Location} → (node : Node) →
    ∀ {block : List Outline}, readBlock registry location found node = .ok block →
    ∀ items, node.untagged = .seq items →
    ((∀ outline ∈ block, outline.Kept) ↔ ∀ item ∈ items, ¬ Overwrites item)
  | location, .seq nodes, block, h, items, hitems => by
    obtain rfl := Node.seq.inj hitems
    rw [readBlock] at h
    exact kept_of_readItems nodes h
  | _, .tagged _ content, _, h, items, hitems => by
    rw [readBlock] at h
    exact kept_of_readBlock content h items hitems
  | _, .null, _, h, _, _ => nomatch h
  | _, .bool _, _, h, _, _ => nomatch h
  | _, .int _, _, h, _, _ => nomatch h
  | _, .float _, _, h, _, _ => nomatch h
  | _, .str _, _, h, _, _ => nomatch h
  | _, .map _, _, h, _, _ => nomatch h

theorem kept_of_readItems : {location : Location} → {position : Nat} → (nodes : List Node) →
    ∀ {outlines : List Outline}, readItems registry location position nodes = .ok outlines →
    ((∀ outline ∈ outlines, outline.Kept) ↔ ∀ node ∈ nodes, ¬ Overwrites node)
  | _, _, [], _, h => by
    cases h
    simp
  | location, position, node :: rest, outlines, h => by
    rw [readItems] at h
    cases hread : read registry (location.item position) node.kind node with
    | error error => simp [hread] at h
    | ok first =>
      simp only [hread] at h
      obtain ⟨others, hothers, rfl⟩ := map_eq_ok.mp h
      have hfirst := kept_of_read node hread
      have hrest := kept_of_readItems rest hothers
      rw [List.forall_mem_cons, List.forall_mem_cons, hfirst, hrest]

end

theorem kept_of_ofNode {document : Node} {outlines : List Outline}
    (h : ofNode registry document = .ok outlines) :
    (∀ outline ∈ outlines, outline.Kept) ↔ ¬ SomeOverwrites document := by
  cases document
  case null =>
    cases h
    simp [SomeOverwrites]
  case seq nodes =>
    rw [kept_of_readItems nodes h]
    simp [SomeOverwrites]
  all_goals exact nomatch h

end Outline

/-- A walk through the tree of a document ascends, and says whether the tree holds anything else. It
does exactly when some element has a block with elements in it and another block after that. -/
theorem preorder_of_ofNode {registry : Registry} {document : Node} {tree : Tree}
    (h : Document.ofNode registry document = .ok tree) :
    tree.preorder.Sublist (List.range tree.size) ∧
      List.TFAE [
        ¬ Grammar.SomeOverwrites document,
        tree.preorder = List.range tree.size,
        tree.preorder.length = tree.size,
        tree.Listed] := by
  rw [Outline.ofNode_eq_tree] at h
  obtain ⟨outlines, hread, rfl⟩ := Outline.map_eq_ok.mp h
  have hwellFormed := Outline.wellFormed_tree (Outline.sound_of_ofNode hread)
  have hsublist := Outline.preorder_sublist outlines
  refine ⟨hsublist, ?_⟩
  rw [← Outline.kept_of_ofNode hread, ← Outline.preorder_eq_range_iff]
  tfae_have 1 ↔ 2 := Iff.rfl
  tfae_have 2 → 3 := fun hrange ↦ by rw [hrange, List.length_range]
  tfae_have 3 → 2 := fun hlength ↦ hsublist.eq_of_length (by rw [hlength, List.length_range])
  tfae_have 2 → 4 := fun hrange ↦ hwellFormed.listed hrange
  tfae_have 4 → 2 := fun hlisted ↦
    Outline.preorder_eq_range_iff.mpr ((Outline.standAllAt_tree outlines).kept hlisted)
  tfae_finish

/-- A document whose only element has an empty block before its block. -/
def emptiedDocument : Node :=
  .seq [.map
    [(.tagged "!t" (.str "block"), .seq []),
      (.str "block", .seq [.map [(.str "shell", .map [])]])]]

theorem preorder_of_ofNode_emptied : ∃ registry tree,
    Registry.ofKinds TaskKind.standard = .ok registry ∧
      Document.ofNode registry emptiedDocument = .ok tree ∧ tree.preorder = [0, 1] ∧
      ¬ Grammar.SomeOverwrites emptiedDocument ∧ tree.Listed := by
  have hread : ∃ registry tree, Registry.ofKinds TaskKind.standard = .ok registry ∧
      Document.ofNode registry emptiedDocument = .ok tree ∧ tree.size = 2 ∧
      tree.preorder = [0, 1] := by
    refine ⟨_, _, rfl, rfl, rfl, ?_⟩
    cbv
  obtain ⟨registry, tree, hregistry, h, hsize, hpreorder⟩ := hread
  have htfae := (preorder_of_ofNode h).2
  have hlength : tree.preorder.length = tree.size := by
    rw [hpreorder, hsize]
    rfl
  exact ⟨registry, tree, hregistry, h, hpreorder, (htfae.out 0 2).mpr hlength,
    (htfae.out 3 2).mpr hlength⟩

/-- The element in a replaced block keeps a slot that no walk meets. -/
theorem preorder_ne_range_replacing : ∃ registry tree,
    Registry.ofKinds TaskKind.standard = .ok registry ∧
      Document.ofNode registry replacingDocument = .ok tree ∧ tree.size = 3 ∧
      tree.preorder = [0, 2] ∧ tree.preorder ≠ List.range tree.size := by
  have hread : ∃ registry tree, Registry.ofKinds TaskKind.standard = .ok registry ∧
      Document.ofNode registry replacingDocument = .ok tree ∧ tree.size = 3 ∧
      tree.preorder = [0, 2] := by
    refine ⟨_, _, rfl, rfl, rfl, ?_⟩
    cbv
  obtain ⟨registry, tree, hregistry, h, hsize, hpreorder⟩ := hread
  refine ⟨registry, tree, hregistry, h, hsize, hpreorder, ?_⟩
  rw [hpreorder, hsize]
  decide

end Playbook
