import Mathlib.Data.List.Nodup
import Playbook.Proofs.Outline.Placement
import Playbook.Proofs.Outline.Reading

/-!
# Trees of documents are forests

Every tree that comes from a document is a well-formed forest: blocks list slots of the tree, every
slot at most once, a child knows the block it is in and stands behind it, and every element is
sound. Reading keeps the elements of an outline sound, and laying sound outlines out links them.
-/

namespace Playbook

open Yaml (Node)
open Document

/-! ## Sound elements -/

/-- An element has children or a task, only a task has a registered name, a loop over literal items
has some, and the kind of the task is known. -/
structure Element.Sound (registry : Registry) (element : Element) : Prop where
  valid : element.validate = .ok ()
  content : if element.block = [] then element.task ≠ none
    else element.task = none ∧ element.register = none
  loop : ∀ items, element.loop = some (.items items) → items ≠ []
  task : ∀ task, element.task = some task → registry.has task.kind = true

/-- The part of a sound element that its heading decides. -/
structure Heading.Sound (registry : Registry) (heading : Heading) : Prop where
  loop : ∀ items, heading.loop = some (.items items) → items ≠ []
  task : ∀ task, heading.task = some task → registry.has task.kind = true

theorem Element.content_of_validate {element : Element} (h : element.validate = .ok ()) :
    if element.block = [] then element.task ≠ none
      else element.task = none ∧ element.register = none := by
  unfold Element.validate Element.isBlock at h
  cases hblock : element.block <;> cases htask : element.task <;>
    cases hregister : element.register <;> simp_all

namespace Outline

/-- An outline all of whose elements are sound, those of replaced blocks included. -/
inductive Sound (registry : Registry) : Outline → Prop where
  | intro {outline : Outline} (valid : outline.validate = .ok ())
      (heading : outline.heading.Sound registry)
      (inside : ∀ inside ∈ outline.replaced ++ outline.children, Sound registry inside) :
      Sound registry outline

/-- An outline that may still lack entries. -/
structure Partial (registry : Registry) (outline : Outline) : Prop where
  heading : outline.heading.Sound registry
  inside : ∀ inside ∈ outline.replaced ++ outline.children, inside.Sound registry

variable {registry : Registry} {location : Location}

theorem sound_hereditary (registry : Registry) : Hereditary (Sound registry) := by
  intro outline h
  cases h with
  | intro _ _ inside => exact inside

theorem Sound.row {outline : Outline} (h : outline.Sound registry) (parent : Option Slot)
    (slot : Slot) : (outline.row parent slot).Sound registry := by
  cases h with
  | intro valid heading _ =>
    have hvalid := (validate_row parent slot outline).trans valid
    exact ⟨hvalid, Element.content_of_validate hvalid, heading.loop, heading.task⟩

/-! ## Reading gives sound outlines -/

theorem partial_blank (registry : Registry) : blank.Partial registry where
  heading := ⟨fun _ h ↦ (nomatch h), fun _ h ↦ (nomatch h)⟩
  inside := fun _ h ↦ (nomatch h)

theorem ofParts_items {var : Option String} {given : Option (List Json)} {items : List Json}
    (h : LoopSpec.ofParts var given = .ok (.items items)) : items ≠ [] := by
  unfold LoopSpec.ofParts at h
  split at h
  · cases h
  · next hgiven =>
    cases h
    have hfilter := (Option.filter_eq_some_iff.mp hgiven).2
    simpa using hfilter
  · cases h
  · cases h

theorem parseLoop_items {node : Node} {items : List Json}
    (h : parseLoop location node = .ok (.items items)) : items ≠ [] := by
  unfold parseLoop at h
  split at h
  · cases h
  · split at h
    · cases h
    · split at h
      · next hparts =>
        cases h
        exact ofParts_items hparts
      · cases h

theorem parseTask_kind {kind : String} {node : Node} {task : Invocation}
    (h : parseTask location kind node = .ok task) : task.kind = kind := by
  unfold parseTask at h
  split at h
  · cases h
  · split at h <;> cases h
    rfl

theorem sound_readField {heading after : Heading} (h : heading.Sound registry)
    {field : ControlField} {node : Node}
    (hread : Outline.readField location field node heading = .ok after) :
    after.Sound registry := by
  cases field
  case loop =>
    obtain ⟨loop, hloop, rfl⟩ := map_eq_ok.mp hread
    refine ⟨fun items hitems ↦ ?_, h.task⟩
    cases hitems
    exact parseLoop_items hloop
  case block =>
    cases hread
    exact h
  all_goals
    obtain ⟨_, _, rfl⟩ := map_eq_ok.mp hread
    exact ⟨h.loop, h.task⟩

/-- One entry keeps what was read before it sound; the elements of a new block are sound. -/
theorem Partial.reads {outline after : Outline} (h : outline.Partial registry) {value : Node}
    {key : String} (hreads : Reads registry location value outline key after)
    (hblock : ∀ block, readBlock registry (location.field "block") value.kind value = .ok block →
      ∀ inside ∈ block, inside.Sound registry) : after.Partial registry := by
  cases hreads with
  | block read =>
    refine ⟨h.heading, fun inside hinside ↦ ?_⟩
    rcases List.mem_append.mp hinside with hbefore | hnew
    · exact h.inside inside hbefore
    · exact hblock _ read inside hnew
  | field other read => exact ⟨sound_readField h.heading read, h.inside⟩
  | task free registered first read =>
    refine ⟨⟨h.heading.loop, fun task htask ↦ ?_⟩, h.inside⟩
    cases htask
    rwa [parseTask_kind read]

mutual

theorem sound_of_read {found : Yaml.Kind} : {location : Location} → (node : Node) →
    ∀ {outline : Outline}, read registry location found node = .ok outline →
    outline.Sound registry
  | location, .map entries, outline, h => by
    rw [read] at h
    cases hentries : readEntries registry location entries blank with
    | error error => simp [hentries] at h
    | ok after =>
      have hpartial := partial_of_readEntries entries (partial_blank registry) hentries
      simp only [hentries] at h
      split at h
      · next hvalid =>
        cases h
        exact .intro hvalid hpartial.heading hpartial.inside
      · cases h
  | _, .tagged _ content, _, h => by
    rw [read] at h
    exact sound_of_read content h
  | _, .null, _, h => nomatch h
  | _, .bool _, _, h => nomatch h
  | _, .int _, _, h => nomatch h
  | _, .float _, _, h => nomatch h
  | _, .str _, _, h => nomatch h
  | _, .seq _, _, h => nomatch h

theorem partial_of_readEntries : {location : Location} → (entries : List (Node × Node)) →
    ∀ {outline after : Outline}, outline.Partial registry →
    readEntries registry location entries outline = .ok after → after.Partial registry
  | _, [], _, _, hpartial, h => by
    cases h
    exact hpartial
  | location, (key, value) :: rest, outline, after, hpartial, h => by
    rw [readEntries] at h
    cases hentry : readEntry registry location (key, value) outline with
    | error error => simp [hentry] at h
    | ok next =>
      simp only [hentry] at h
      obtain ⟨text, _, hreads⟩ := readEntry_eq_ok.mp hentry
      have hnext := hpartial.reads hreads fun block hblock ↦ sound_of_readBlock value hblock
      exact partial_of_readEntries rest hnext h

theorem sound_of_readBlock {found : Yaml.Kind} : {location : Location} → (node : Node) →
    ∀ {block : List Outline}, readBlock registry location found node = .ok block →
    ∀ outline ∈ block, outline.Sound registry
  | location, .seq nodes, block, h => by
    rw [readBlock] at h
    exact sound_of_readItems nodes h
  | _, .tagged _ content, _, h => by
    rw [readBlock] at h
    exact sound_of_readBlock content h
  | _, .null, _, h => nomatch h
  | _, .bool _, _, h => nomatch h
  | _, .int _, _, h => nomatch h
  | _, .float _, _, h => nomatch h
  | _, .str _, _, h => nomatch h
  | _, .map _, _, h => nomatch h

theorem sound_of_readItems : {location : Location} → {position : Nat} → (nodes : List Node) →
    ∀ {outlines : List Outline}, readItems registry location position nodes = .ok outlines →
    ∀ outline ∈ outlines, outline.Sound registry
  | _, _, [], _, h => by
    cases h
    simp
  | location, position, node :: rest, outlines, h => by
    rw [readItems] at h
    cases hread : read registry (location.item position) node.kind node with
    | error error => simp [hread] at h
    | ok first =>
      simp only [hread] at h
      obtain ⟨others, hothers, rfl⟩ := map_eq_ok.mp h
      intro outline hmem
      rcases List.mem_cons.mp hmem with rfl | hrest
      · exact sound_of_read node hread
      · exact sound_of_readItems rest hothers outline hrest

end

theorem sound_of_ofNode {document : Node} {outlines : List Outline}
    (h : ofNode registry document = .ok outlines) :
    ∀ outline ∈ outlines, outline.Sound registry := by
  cases document
  case null =>
    cases h
    simp
  case seq nodes => exact sound_of_readItems nodes h
  all_goals exact nomatch h

end Outline

/-! ## Well-formed trees -/

/-- A tree is a forest of sound elements: links go from blocks to later slots and back, and no slot
is listed twice. -/
structure Tree.WellFormed (registry : Registry) (tree : Tree) : Prop where
  roots_inside : ∀ root ∈ tree.roots, root < tree.size
  block_inside : ∀ slot element, tree.get? slot = some element →
    ∀ child ∈ element.block, child < tree.size
  listed_once : (tree.roots ++ tree.elements.toList.flatMap (·.block)).Nodup
  root_parent : ∀ root ∈ tree.roots, ∀ element, tree.get? root = some element →
    element.parent = none
  child_parent : ∀ slot element, tree.get? slot = some element → ∀ child ∈ element.block,
    ∀ inside, tree.get? child = some inside → inside.parent = some slot
  lt_child : ∀ slot element, tree.get? slot = some element → ∀ child ∈ element.block, slot < child
  parent_lt : ∀ slot element, tree.get? slot = some element → ∀ parent,
    element.parent = some parent → parent < slot
  sound : ∀ slot element, tree.get? slot = some element → element.Sound registry

/-- Links up to parents decide that no slot is listed twice. -/
theorem Tree.nodup_listed {tree : Tree} (hroots : tree.roots.Nodup)
    (hblocks : ∀ slot element, tree.get? slot = some element → element.block.Nodup)
    (hroot : ∀ root ∈ tree.roots, ∃ element, tree.get? root = some element ∧ element.parent = none)
    (hchild : ∀ slot element, tree.get? slot = some element → ∀ child ∈ element.block,
      ∃ inside, tree.get? child = some inside ∧ inside.parent = some slot) :
    (tree.roots ++ tree.elements.toList.flatMap (·.block)).Nodup := by
  have hget : ∀ element ∈ tree.elements.toList, ∃ slot, tree.get? slot = some element := by
    intro element hmem
    obtain ⟨slot, hslot⟩ := List.mem_iff_getElem?.mp hmem
    exact ⟨slot, by simpa [Tree.get?] using hslot⟩
  refine List.nodup_append.mpr ⟨hroots, List.nodup_flatMap.mpr ⟨?_, ?_⟩, ?_⟩
  · intro element hmem
    obtain ⟨slot, hslot⟩ := hget element hmem
    exact hblocks slot element hslot
  · refine List.pairwise_iff_getElem.mpr fun first second hfirst hsecond hlt child hin hin' ↦ ?_
    obtain ⟨inside, hinside, hparent⟩ := hchild first _ (by simp [Tree.get?]) child hin
    obtain ⟨inside', hinside', hparent'⟩ := hchild second _ (by simp [Tree.get?]) child hin'
    obtain rfl := Option.some.inj (hinside.symm.trans hinside')
    exact Nat.ne_of_lt hlt (Option.some.inj (hparent.symm.trans hparent'))
  · rintro root hmem child hmem' rfl
    obtain ⟨element, helement, hblock⟩ := List.mem_flatMap.mp hmem'
    obtain ⟨slot, hslot⟩ := hget element helement
    obtain ⟨inside, hinside, hparent⟩ := hchild slot element hslot root hblock
    obtain ⟨top, htop, hnone⟩ := hroot root hmem
    obtain rfl := Option.some.inj (hinside.symm.trans htop)
    cases hparent.symm.trans hnone

namespace Outline

variable {registry : Registry} {outlines : List Outline}

/-- Every slot of a laid-out tree holds an outline. -/
theorem exists_of_get? {P : Outline → Prop} (hP : Hereditary P)
    (hall : ∀ outline ∈ outlines, P outline) {slot : Slot} {element : Element}
    (h : (Outline.tree outlines).get? slot = some element) :
    ∃ above found, P found ∧ found.StandsAt (Outline.tree outlines) above slot ∧
      element = found.row above slot ∧ ∀ parent, above = some parent → parent < slot := by
  have hlt := Tree.get?_lt h
  rw [size_tree, ← Nat.zero_add (sizeAll outlines)] at hlt
  obtain ⟨above, found, hfound, hstands, habove⟩ :=
    (standAllAt_tree outlines).exists_at hP hall (Nat.zero_le slot) hlt
  refine ⟨above, found, hfound, hstands, Option.some.inj (h.symm.trans hstands.get?), ?_⟩
  rintro parent rfl
  rcases habove with habove | ⟨upper, habove, -, hupper⟩
  · cases habove
  · cases habove
    exact hupper

/-- A listed child is an outline that stands below the element that lists it. -/
theorem StandsAt.child {tree : Tree} {above : Option Slot} {slot : Slot} {outline : Outline}
    (h : outline.StandsAt tree above slot) {child : Slot}
    (hchild : child ∈ (outline.row above slot).block) :
    slot < child ∧ ∃ inside ∈ outline.children, inside.StandsAt tree (some slot) child := by
  refine ⟨?_, h.children.of_mem_slots hchild⟩
  exact Nat.lt_of_lt_of_le (lt_childSlot slot outline) (slots_bounds hchild).1

theorem wellFormed_tree (h : ∀ outline ∈ outlines, outline.Sound registry) :
    (Outline.tree outlines).WellFormed registry := by
  have hslot := @exists_of_get? outlines _ (sound_hereditary registry) h
  have hroot : ∀ root ∈ (Outline.tree outlines).roots,
      ∃ element, (Outline.tree outlines).get? root = some element ∧ element.parent = none := by
    intro root hmem
    obtain ⟨outline, -, hstands⟩ := (standAllAt_tree outlines).of_mem_slots hmem
    exact ⟨_, hstands.get?, rfl⟩
  have hchild : ∀ slot element, (Outline.tree outlines).get? slot = some element →
      ∀ child ∈ element.block, slot < child ∧
        ∃ inside, (Outline.tree outlines).get? child = some inside ∧ inside.parent = some slot := by
    intro slot element helement child hmem
    obtain ⟨above, found, -, hstands, rfl, -⟩ := hslot helement
    obtain ⟨hlt, inside, -, hinside⟩ := hstands.child hmem
    exact ⟨hlt, _, hinside.get?, rfl⟩
  refine ⟨?_, ?_, ?_, ?_, ?_, ?_, ?_, ?_⟩
  · intro root hmem
    obtain ⟨element, helement, -⟩ := hroot root hmem
    exact Tree.get?_lt helement
  · intro slot element helement child hmem
    obtain ⟨-, inside, hinside, -⟩ := hchild slot element helement child hmem
    exact Tree.get?_lt hinside
  · apply Tree.nodup_listed
    · exact (slots_pairwise 0 outlines).imp Nat.ne_of_lt
    · intro slot element helement
      obtain ⟨above, found, -, -, rfl, -⟩ := hslot helement
      exact (slots_pairwise _ found.children).imp Nat.ne_of_lt
    · exact hroot
    · exact fun slot element helement child hmem ↦ (hchild slot element helement child hmem).2
  · intro root hmem element helement
    obtain ⟨found, hfound, hparent⟩ := hroot root hmem
    obtain rfl := Option.some.inj (hfound.symm.trans helement)
    exact hparent
  · intro slot element helement child hmem inside hinside
    obtain ⟨-, found, hfound, hparent⟩ := hchild slot element helement child hmem
    obtain rfl := Option.some.inj (hfound.symm.trans hinside)
    exact hparent
  · exact fun slot element helement child hmem ↦ (hchild slot element helement child hmem).1
  · intro slot element helement parent hparent
    obtain ⟨above, found, -, -, rfl, habove⟩ := hslot helement
    exact habove parent hparent
  · intro slot element helement
    obtain ⟨above, found, hfound, -, rfl, -⟩ := hslot helement
    exact hfound.row above slot

end Outline

/-- Every tree that a document reads into is a well-formed forest. -/
theorem wellFormed_of_ofNode {registry : Registry} {document : Node} {tree : Tree}
    (h : Document.ofNode registry document = .ok tree) : tree.WellFormed registry := by
  rw [Outline.ofNode_eq_tree] at h
  obtain ⟨outlines, hread, rfl⟩ := Outline.map_eq_ok.mp h
  exact Outline.wellFormed_tree (Outline.sound_of_ofNode hread)

/-- A document whose only element has its block replaced by a later one. -/
def replacingDocument : Node :=
  .seq [.map
    [(.str "name", .int 1),
      (.tagged "!t" (.str "block"), .seq [.map [(.str "shell", .map [])]]),
      (.str "block", .seq [.map
        [(.str "shell", .map []), (.str "loop", .map [(.str "items", .seq [.int 1])])]])]]

theorem wellFormed_of_ofNode_replacing : ∃ registry tree,
    Registry.ofKinds TaskKind.standard = .ok registry ∧
      Document.ofNode registry replacingDocument = .ok tree ∧ tree.WellFormed registry ∧
      tree.size = 3 := by
  have hread : ∀ registry tree, Document.ofNode registry replacingDocument = .ok tree →
      tree.WellFormed registry := fun _ _ h ↦ wellFormed_of_ofNode h
  exact ⟨_, _, rfl, rfl, hread _ _ rfl, rfl⟩

end Playbook
