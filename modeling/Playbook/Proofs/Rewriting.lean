import Playbook.Proofs.Concatenation
import Playbook.Proofs.Grammar.Value

/-!
# Rewriting documents

A rewriting puts other elements in the place of some, anywhere in a document: among its top-level
elements, or inside the blocks of any of them. A relation of outlines that is kept by putting
outlines one after another and by putting them into an element holds of whole documents as soon as
it holds of the elements that were exchanged; and the new document can be read if these can.
-/

namespace Playbook

open Yaml (Node)
open Grammar (Names string?_eq_some)

/-- Somewhere in the first sequence of elements a part of it was exchanged for another, as `step`
allows. The tags of the elements and blocks around do not matter. -/
inductive Rewrites (step : List Node → List Node → Prop) : List Node → List Node → Prop where
  | here {part part' : List Node} (before after : List Node) (exchange : step part part') :
      Rewrites step (before ++ part ++ after) (before ++ part' ++ after)
  | inside {node node' key value value' : Node} {items items' : List Node}
      (before after : List Node) (front back : List (Node × Node))
      (mapping : node.untagged = .map (front ++ (key, value) :: back))
      (mapping' : node'.untagged = .map (front ++ (key, value') :: back))
      (names : Names "block" (key, value)) (block : value.untagged = .seq items)
      (block' : value'.untagged = .seq items') (inside : Rewrites step items items') :
      Rewrites step (before ++ [node] ++ after) (before ++ [node'] ++ after)

namespace Outline

variable {registry : Registry} {location : Location}

/-! ## Reading through tags -/

theorem read_untagged {found : Yaml.Kind} {entries : List (Node × Node)} {outline : Outline} :
    (node : Node) → node.untagged = .map entries →
    (read registry location found node = .ok outline ↔
      readEntries registry location entries blank = .ok outline ∧ outline.validate = .ok ())
  | .map given, h => by
    obtain rfl := Node.map.inj h
    rw [read]
    cases readEntries registry location given blank with
    | error error => simp
    | ok found =>
      dsimp only
      cases hvalid : found.validate with
      | error fault =>
        simp only [reduceCtorEq, Except.ok.injEq, false_iff, not_and]
        rintro rfl
        simp [hvalid]
      | ok _ =>
        simp only [Except.ok.injEq]
        constructor
        · rintro rfl
          exact ⟨rfl, hvalid⟩
        · exact And.left
  | .tagged _ content, h => by
    rw [read]
    exact read_untagged content h
  | .null, h | .bool _, h | .int _, h | .float _, h | .str _, h | .seq _, h => by cases h

theorem readBlock_untagged {found : Yaml.Kind} {items : List Node} :
    (node : Node) → node.untagged = .seq items →
    readBlock registry location found node = readItems registry location 0 items
  | .seq _, h => by
    obtain rfl := Node.seq.inj h
    rw [readBlock]
  | .tagged _ content, h => by
    rw [readBlock]
    exact readBlock_untagged content h
  | .null, h | .bool _, h | .int _, h | .float _, h | .str _, h | .map _, h => by cases h

theorem readItems_singleton {node : Node} {entries : List (Node × Node)}
    (h : node.untagged = .map entries) {outlines : List Outline} :
    readItems registry [] 0 [node] = .ok outlines ↔ ∃ outline, outlines = [outline] ∧
      readEntries registry [] entries blank = .ok outline ∧ outline.validate = .ok () := by
  rw [readItems]
  constructor
  · intro hitems
    cases hread : read registry (Location.item [] 0) node.kind node with
    | error error => simp [hread] at hitems
    | ok outline =>
      rw [hread] at hitems
      refine ⟨outline, (Except.ok.inj hitems).symm, ?_⟩
      exact (read_untagged node h).mp (read_elsewhere hread [])
  · rintro ⟨outline, rfl, hentries⟩
    have hread : read registry [] node.kind node = .ok outline :=
      (read_untagged node h).mpr hentries
    rw [read_elsewhere hread (Location.item [] 0)]
    rfl

theorem readEntry_block {entry : Node × Node} (hnames : Names "block" entry)
    {items : List Node} (hitems : entry.2.untagged = .seq items) {outline after : Outline} :
    readEntry registry [] entry outline = .ok after ↔
      ∃ block, readItems registry [] 0 items = .ok block ∧ outline.withBlock block = after := by
  obtain ⟨key, value⟩ := entry
  have hkey : Document.keyText [] key = .ok "block" :=
    keyText_eq_ok.mpr (string?_eq_some.mpr hnames)
  have hfield : ControlField.ofKey? "block" = some .block := rfl
  rw [readEntry, hkey]
  dsimp only
  rw [hfield]
  dsimp only
  rw [readBlock_untagged value hitems, map_eq_ok]
  constructor
  · rintro ⟨block, hblock, hafter⟩
    exact ⟨block, readItems_elsewhere hblock [] 0, hafter⟩
  · rintro ⟨block, hblock, hafter⟩
    exact ⟨block, readItems_elsewhere hblock _ 0, hafter⟩

/-! ## Entries with a known name -/

theorem string?_eq_of_names {key value : Node} {text name : String}
    (hkey : key.string? = some text) (hnames : Names name (key, value)) : text = name := by
  have hnamed : Names text (key, value) := string?_eq_some.mp hkey
  exact hnamed.text_eq hnames

theorem readEntry_names_block {entry : Node × Node} (h : Names "block" entry)
    {outline after : Outline} (hread : readEntry registry location entry outline = .ok after) :
    ∃ items block, entry.2.untagged = .seq items ∧ after = outline.withBlock block := by
  obtain ⟨key, value⟩ := entry
  obtain ⟨text, hkey, hreads⟩ := readEntry_eq_ok.mp hread
  have htext : text = "block" := string?_eq_of_names hkey h
  cases hreads with
  | @block block read =>
    obtain ⟨items, hitems, -⟩ := exists_items_of_readBlock value read
    exact ⟨items, block, hitems, rfl⟩
  | field other read => exact absurd htext (text_ne_block other)
  | task free registered first read => exact absurd htext.symm (ofKey?_eq_none.mp free .block)

theorem readEntry_names_field {field : ControlField} (hother : field ≠ .block)
    {entry : Node × Node} (h : Names field.text entry) {outline after : Outline}
    (hread : readEntry registry location entry outline = .ok after) :
    ∃ heading, readField (location.field field.text) field entry.2 outline.heading = .ok heading ∧
      after = outline.withHeading heading := by
  obtain ⟨key, value⟩ := entry
  obtain ⟨text, hkey, hreads⟩ := readEntry_eq_ok.mp hread
  have htext : text = field.text := string?_eq_of_names hkey h
  cases hreads with
  | block read => exact absurd htext.symm (text_ne_block hother)
  | @field found heading other read =>
    have hfound := (ofKey?_eq_some.mpr htext).symm.trans (ofKey?_eq_some.mpr rfl)
    obtain rfl : found = field := Option.some.inj hfound
    exact ⟨heading, read, rfl⟩
  | task free registered first read => exact absurd htext.symm (ofKey?_eq_none.mp free field)

theorem readEntries_cons {entry : Node × Node} {rest : List (Node × Node)}
    {outline after : Outline} :
    readEntries registry location (entry :: rest) outline = .ok after ↔
      ∃ between, readEntry registry location entry outline = .ok between ∧
        readEntries registry location rest between = .ok after := by
  rw [readEntries]
  cases readEntry registry location entry outline <;> simp

theorem readEntries_append {front back : List (Node × Node)} {outline after : Outline} :
    readEntries registry location (front ++ back) outline = .ok after ↔
      ∃ between, readEntries registry location front outline = .ok between ∧
        readEntries registry location back between = .ok after := by
  induction front generalizing outline with
  | nil => simp [readEntries]
  | cons entry rest ih =>
    rw [List.cons_append, readEntries_cons]
    simp only [ih, readEntries_cons]
    constructor
    · rintro ⟨first, hfirst, between, hrest, hback⟩
      exact ⟨between, ⟨first, hfirst, hrest⟩, hback⟩
    · rintro ⟨between, ⟨first, hfirst, hrest⟩, hback⟩
      exact ⟨first, hfirst, between, hrest, hback⟩

/-! ## Relations that documents keep -/

/-- A relation of outlines that holds of a document as soon as it holds of what was exchanged. -/
structure Congruence (R : List Outline → List Outline → Prop) : Prop where
  refl : ∀ outlines, R outlines outlines
  append : ∀ {first first' second second'}, R first first' → R second second' →
    R (first ++ second) (first' ++ second')
  element : ∀ {children children'} heading replaced replaced', R children children' →
    R [.element heading replaced children] [.element heading replaced' children']
  nil : ∀ {outlines outlines'}, R outlines outlines' → (outlines = [] ↔ outlines' = [])

/-- The same heading, and related children. -/
def Resembles (R : List Outline → List Outline → Prop) (outline other : Outline) : Prop :=
  other.heading = outline.heading ∧ R outline.children other.children

variable {R : List Outline → List Outline → Prop} {outline outline' after : Outline}

theorem readEntry_resembles (hR : Congruence R) (h : Resembles R outline outline')
    {entry : Node × Node} (hread : readEntry registry location entry outline = .ok after) :
    ∃ after', readEntry registry location entry outline' = .ok after' ∧
      Resembles R after after' := by
  obtain ⟨key, value⟩ := entry
  obtain ⟨hheading, hchildren⟩ := h
  obtain ⟨text, hkey, hreads⟩ := readEntry_eq_ok.mp hread
  cases hreads with
  | @block block read =>
    exact ⟨_, readEntry_eq_ok.mpr ⟨_, hkey, .block read⟩, hheading, hR.refl block⟩
  | field other read =>
    rw [← hheading] at read
    exact ⟨_, readEntry_eq_ok.mpr ⟨_, hkey, .field other read⟩, rfl, hchildren⟩
  | @task kind task free registered first read =>
    rw [← hheading] at first
    refine ⟨_, readEntry_eq_ok.mpr ⟨_, hkey, .task free registered first read⟩, ?_, hchildren⟩
    exact congrArg (fun heading : Heading ↦ { heading with task := some task }) hheading

theorem readEntries_resembles (hR : Congruence R) {entries : List (Node × Node)} :
    ∀ {outline outline' : Outline}, Resembles R outline outline' →
      readEntries registry location entries outline = .ok after →
      ∃ after', readEntries registry location entries outline' = .ok after' ∧
        Resembles R after after' := by
  induction entries with
  | nil =>
    intro outline outline' h hread
    obtain rfl := Except.ok.inj hread
    exact ⟨outline', rfl, h⟩
  | cons entry rest ih =>
    intro outline outline' h hread
    obtain ⟨between, hentry, hrest⟩ := readEntries_cons.mp hread
    obtain ⟨between', hentry', hbetween⟩ := readEntry_resembles hR h hentry
    obtain ⟨after', hrest', hafter⟩ := ih hbetween hrest
    exact ⟨after', readEntries_cons.mpr ⟨between', hentry', hrest'⟩, hafter⟩

theorem Resembles.validate_eq (hR : Congruence R) (h : Resembles R outline outline') :
    outline'.validate = outline.validate := by
  have hempty : outline'.children.isEmpty = outline.children.isEmpty := by
    rw [Bool.eq_iff_iff, List.isEmpty_iff, List.isEmpty_iff, hR.nil h.2]
  rw [validate, validate, h.1, hempty]

/-- What is exchanged in one block of an element shows in its children only. -/
theorem readEntries_exchanged (hR : Congruence R) {key value value' : Node}
    (hnames : Names "block" (key, value)) {items items' : List Node}
    (hitems : value.untagged = .seq items) (hitems' : value'.untagged = .seq items')
    (hexchange : ∀ block, readItems registry [] 0 items = .ok block →
      ∃ block', readItems registry [] 0 items' = .ok block' ∧ R block block')
    {front back : List (Node × Node)}
    (hread : readEntries registry [] (front ++ (key, value) :: back) outline = .ok after) :
    ∃ after', readEntries registry [] (front ++ (key, value') :: back) outline = .ok after' ∧
      Resembles R after after' := by
  obtain ⟨before, hfront, hrest⟩ := readEntries_append.mp hread
  obtain ⟨between, hentry, hback⟩ := readEntries_cons.mp hrest
  obtain ⟨block, hblock, rfl⟩ := (readEntry_block hnames hitems).mp hentry
  obtain ⟨block', hblock', hrelated⟩ := hexchange block hblock
  have hnames' : Names "block" (key, value') := hnames
  have hentry' : readEntry registry [] (key, value') before = .ok (before.withBlock block') :=
    (readEntry_block hnames' hitems').mpr ⟨block', hblock', rfl⟩
  have hresembles : Resembles R (before.withBlock block) (before.withBlock block') :=
    ⟨rfl, hrelated⟩
  obtain ⟨after', hback', hafter⟩ := readEntries_resembles hR hresembles hback
  exact ⟨after', readEntries_append.mpr ⟨before, hfront,
    readEntries_cons.mpr ⟨_, hentry', hback'⟩⟩, hafter⟩

end Outline

open Outline

variable {registry : Registry} {R : List Outline → List Outline → Prop}
  {step : List Node → List Node → Prop}

/-- A rewritten document can be read, and is related to the document it comes from, if this is so
for what was exchanged. -/
theorem Rewrites.readItems (hR : Congruence R)
    (hstep : ∀ part part' outlines, step part part' → readItems registry [] 0 part = .ok outlines →
      ∃ outlines', readItems registry [] 0 part' = .ok outlines' ∧ R outlines outlines')
    {nodes nodes' : List Node} (h : Rewrites step nodes nodes') :
    ∀ outlines, readItems registry [] 0 nodes = .ok outlines →
      ∃ outlines', readItems registry [] 0 nodes' = .ok outlines' ∧ R outlines outlines' := by
  have hbetween : ∀ {part part' : List Node} (before after : List Node),
      (∀ outlines, Outline.readItems registry [] 0 part = .ok outlines →
        ∃ outlines', Outline.readItems registry [] 0 part' = .ok outlines' ∧ R outlines outlines') →
      ∀ outlines, Outline.readItems registry [] 0 (before ++ part ++ after) = .ok outlines →
        ∃ outlines', Outline.readItems registry [] 0 (before ++ part' ++ after) = .ok outlines' ∧
          R outlines outlines' := by
    intro part part' before after hpart outlines hread
    obtain ⟨_, last, hinit, hlast, rfl⟩ := readItems_append_eq_ok.mp hread
    obtain ⟨first, middle, hfirst, hmiddle, rfl⟩ := readItems_append_eq_ok.mp hinit
    obtain ⟨middle', hmiddle', hrelated⟩ := hpart middle hmiddle
    have hinit' := readItems_append_eq_ok.mpr ⟨first, middle', hfirst, hmiddle', rfl⟩
    exact ⟨_, readItems_append_eq_ok.mpr ⟨_, last, hinit', hlast, rfl⟩,
      hR.append (hR.append (hR.refl first) hrelated) (hR.refl last)⟩
  induction h with
  | here before after hexchange =>
    exact hbetween before after fun outlines ↦ hstep _ _ outlines hexchange
  | inside before after front back mapping mapping' names block block' inside ih =>
    refine hbetween before after fun outlines hread ↦ ?_
    obtain ⟨outline, rfl, hentries, hvalid⟩ := (readItems_singleton mapping).mp hread
    -- The block may be replaced by a later one of the element, and is read all the same.
    obtain ⟨outline', hentries', hresembles⟩ :=
      readEntries_exchanged hR names block block' ih hentries
    rw [← hresembles.validate_eq hR] at hvalid
    refine ⟨[outline'], (readItems_singleton mapping').mpr ⟨outline', rfl, hentries', hvalid⟩, ?_⟩
    obtain ⟨heading, replaced, children⟩ := outline
    obtain ⟨heading', replaced', children'⟩ := outline'
    obtain ⟨hheading, hchildren⟩ := hresembles
    obtain rfl : heading' = heading := hheading
    exact hR.element heading' replaced replaced' hchildren

end Playbook
