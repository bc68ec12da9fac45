import Playbook.Proofs.Grammar.Loop

/-!
# Documents in the grammar

A document is read exactly when it is one of the grammar. Reading goes through the entries of an
element in order and checks the content at the end; the grammar speaks of all entries at once. They
meet in what the entries of an element amount to: whether there is a task, a registered name and a
filled block.
-/

namespace Playbook.Grammar

open Yaml (Node)
open Document
open Outline

variable {registry : Registry} {location : Location} {outline after : Outline}

/-! ## Single entries -/

theorem readField_ok_iff (location : Location) {field : ControlField} (hfield : field ≠ .block)
    (node : Node) (heading : Heading) :
    (∃ after, readField location field node heading = .ok after) ↔ IsValue node field := by
  cases field
  case block => exact absurd rfl hfield
  case name | register => rw [readField, exists_map_eq_ok, scalarText_ok_iff, IsValue]
  case guards => rw [readField, exists_map_eq_ok, parseGuards_ok_iff, IsValue]
  case environment => rw [readField, exists_map_eq_ok, parseEnvironment_ok_iff, IsValue]
  case loop => rw [readField, exists_map_eq_ok, parseLoop_ok_iff, IsValue]
  case ignoreErrors => rw [readField, exists_map_eq_ok, parseIgnoreErrors_ok_iff, IsValue]

theorem not_isTask_of_names {field : ControlField} {entry : Node × Node}
    (h : Names field.text entry) : ¬ IsTask registry entry := by
  rintro ⟨kind, ⟨hother, -⟩, hnames⟩
  exact hother field (h.text_eq hnames)

/-- An entry can be read on top of others if it is a field, and not a second task. -/
theorem readEntry_ok_iff (key value : Node) (outline : Outline)
    (hblock : (∃ block, readBlock registry (location.field "block") value.kind value = .ok block) ↔
      ∃ items, value.untagged = .seq items ∧ ∀ item ∈ items, IsElement registry item) :
    (∃ after, readEntry registry location (key, value) outline = .ok after) ↔
      IsField registry (key, value) ∧
        (outline.heading.task ≠ none → ¬ IsTask registry (key, value)) := by
  constructor
  · rintro ⟨after, h⟩
    obtain ⟨text, hkey, hreads⟩ := readEntry_eq_ok.mp h
    have hnames : Names text (key, value) := string?_eq_some.mp hkey
    cases hreads with
    | @block block read =>
      have hcontrol : Names ControlField.block.text (key, value) := hnames
      obtain ⟨items, hitems, helements⟩ := hblock.mp ⟨block, read⟩
      exact ⟨.block hnames hitems helements, fun _ ↦ not_isTask_of_names hcontrol⟩
    | @field field heading other read =>
      have hvalue := (readField_ok_iff _ other value _).mp ⟨heading, read⟩
      exact ⟨.control hnames hvalue, fun _ ↦ not_isTask_of_names hnames⟩
    | task free registered first read =>
      have hkind : IsKind registry text := ⟨ofKey?_eq_none.mp free, registered⟩
      obtain ⟨config, hconfig, hjson⟩ := (parseTask_ok_iff _ text value).mp ⟨_, read⟩
      exact ⟨.task ⟨text, hkind, hnames⟩ hconfig hjson, fun hsome ↦ absurd first hsome⟩
  · rintro ⟨hfield, hsingle⟩
    cases hfield with
    | @control _ field names hvalue =>
      have hother : field ≠ .block := by
        rintro rfl
        exact hvalue
      obtain ⟨heading, hread⟩ := (readField_ok_iff (location.field field.text) hother value
        outline.heading).mpr hvalue
      exact ⟨_, readEntry_eq_ok.mpr ⟨_, string?_eq_some.mpr names, .field hother hread⟩⟩
    | block names sequence elements =>
      obtain ⟨block, hread⟩ := hblock.mpr ⟨_, sequence, elements⟩
      exact ⟨_, readEntry_eq_ok.mpr ⟨_, string?_eq_some.mpr names, .block hread⟩⟩
    | task htask mapping json =>
      have hfirst : outline.heading.task = none :=
        Classical.byContradiction fun hsome ↦ hsingle hsome htask
      obtain ⟨kind, ⟨hother, hregistered⟩, names⟩ := htask
      obtain ⟨task, hread⟩ :=
        (parseTask_ok_iff (location.field kind) kind value).mpr ⟨_, mapping, json⟩
      exact ⟨_, readEntry_eq_ok.mpr ⟨kind, string?_eq_some.mpr names,
        .task (ofKey?_eq_none.mpr hother) hregistered hfirst hread⟩⟩

/-! ## What the entries of an element amount to -/

theorem readField_task {field : ControlField} {node : Node} {heading after : Heading}
    (h : readField location field node heading = .ok after) : after.task = heading.task := by
  cases field
  case block =>
    cases h
    rfl
  all_goals
    obtain ⟨_, _, rfl⟩ := map_eq_ok.mp h
    rfl

theorem readField_register {field : ControlField} {node : Node} {heading after : Heading}
    (h : readField location field node heading = .ok after) :
    after.register ≠ none ↔ heading.register ≠ none ∨ field = .register := by
  cases field
  case block =>
    cases h
    simp
  all_goals
    obtain ⟨_, _, rfl⟩ := map_eq_ok.mp h
    simp

theorem readEntry_task {entry : Node × Node}
    (h : readEntry registry location entry outline = .ok after) :
    after.heading.task ≠ none ↔ outline.heading.task ≠ none ∨ IsTask registry entry := by
  obtain ⟨key, value⟩ := entry
  obtain ⟨text, hkey, hreads⟩ := readEntry_eq_ok.mp h
  have hnames : Names text (key, value) := string?_eq_some.mp hkey
  cases hreads with
  | block read =>
    have hcontrol : Names ControlField.block.text (key, value) := hnames
    exact (or_iff_left (not_isTask_of_names hcontrol)).symm
  | field other read =>
    rw [or_iff_left (not_isTask_of_names hnames), ← readField_task read]
    rfl
  | task free registered first read =>
    have htask : IsTask registry (key, value) :=
      ⟨text, ⟨ofKey?_eq_none.mp free, registered⟩, hnames⟩
    exact iff_of_true (Option.some_ne_none _) (.inr htask)

theorem readEntry_register {entry : Node × Node}
    (h : readEntry registry location entry outline = .ok after) :
    after.heading.register ≠ none ↔
      outline.heading.register ≠ none ∨ Names "register" entry := by
  obtain ⟨key, value⟩ := entry
  obtain ⟨text, hkey, hreads⟩ := readEntry_eq_ok.mp h
  have hnames : Names text (key, value) := string?_eq_some.mp hkey
  have hregister : Names "register" (key, value) ↔ text = "register" :=
    ⟨hnames.text_eq, fun htext ↦ htext ▸ hnames⟩
  rw [hregister]
  cases hreads with
  | block read => exact (or_iff_left (by decide)).symm
  | @field field heading other read =>
    have hfield : field.text = "register" ↔ field = .register := by cases field <;> decide
    rw [hfield, ← readField_register read]
    rfl
  | task free registered first read =>
    have hother := ofKey?_eq_none.mp free .register
    exact (or_iff_left hother.symm).symm

/-- The children are those of the last block. -/
theorem readEntry_children {entry : Node × Node}
    (h : readEntry registry location entry outline = .ok after)
    (rest : List (Node × Node)) :
    FilledAfter "block" (outline.children ≠ []) (entry :: rest) ↔
      FilledAfter "block" (after.children ≠ []) rest := by
  obtain ⟨key, value⟩ := entry
  obtain ⟨text, hkey, hreads⟩ := readEntry_eq_ok.mp h
  have hnames : Names text (key, value) := string?_eq_some.mp hkey
  cases hreads with
  | @block block read =>
    obtain ⟨items, hitems, hempty⟩ := exists_items_of_readBlock value read
    rw [filledAfter_cons hnames hitems, ne_eq, ← hempty]
    rfl
  | field other read =>
    have hother : ¬ Names "block" (key, value) := fun hblock ↦
      text_ne_block other (hnames.text_eq hblock)
    rw [filledAfter_cons_of_not hother]
    rfl
  | task free registered first read =>
    have hother : ¬ Names "block" (key, value) := fun hblock ↦
      ofKey?_eq_none.mp free .block (hblock.text_eq hnames)
    rw [filledAfter_cons_of_not hother]
    rfl

/-- The task, the registered name and the children of an element, said of its entries. -/
theorem readEntries_content {entries : List (Node × Node)} :
    ∀ {outline after : Outline}, readEntries registry location entries outline = .ok after →
      (after.heading.task ≠ none ↔
        outline.heading.task ≠ none ∨ ∃ entry ∈ entries, IsTask registry entry) ∧
      (after.heading.register ≠ none ↔
        outline.heading.register ≠ none ∨ ∃ entry ∈ entries, Names "register" entry) ∧
      (after.children ≠ [] ↔ FilledAfter "block" (outline.children ≠ []) entries) := by
  induction entries with
  | nil =>
    intro outline after h
    cases h
    simp [filledAfter_nil]
  | cons entry rest ih =>
    intro outline after h
    rw [readEntries] at h
    cases hentry : readEntry registry location entry outline with
    | error error => simp [hentry] at h
    | ok next =>
      simp only [hentry] at h
      obtain ⟨htask, hregister, hchildren⟩ := ih h
      rw [htask, hregister, hchildren, readEntry_task hentry, readEntry_register hentry,
        readEntry_children hentry]
      simp only [List.mem_cons, exists_eq_or_imp, or_assoc, and_self, iff_self]

theorem validate_eq_ok : outline.validate = .ok () ↔
    outline.children ≠ [] ∧ outline.heading.task = none ∧ outline.heading.register = none ∨
      outline.children = [] ∧ outline.heading.task ≠ none := by
  unfold validate
  cases outline.children <;> cases outline.heading.task <;>
    cases outline.heading.register <;> simp

/-- What the entries of a whole element amount to. -/
theorem readEntries_blank {entries : List (Node × Node)}
    (h : readEntries registry location entries blank = .ok after) :
    (after.heading.task ≠ none ↔ ∃ entry ∈ entries, IsTask registry entry) ∧
      (after.heading.register ≠ none ↔ ∃ entry ∈ entries, Names "register" entry) ∧
      (after.children ≠ [] ↔ LastFilled "block" entries) := by
  obtain ⟨htask, hregister, hchildren⟩ := readEntries_content h
  have hblank : (blank.children ≠ []) = False := by simp [blank, Outline.children]
  have htask' : ¬ blank.heading.task ≠ none := not_not_intro rfl
  have hregister' : ¬ blank.heading.register ≠ none := not_not_intro rfl
  rw [or_iff_right htask'] at htask
  rw [or_iff_right hregister'] at hregister
  rw [hblank, filledAfter_false] at hchildren
  exact ⟨htask, hregister, hchildren⟩

theorem readEntries_blank_none {entries : List (Node × Node)}
    (h : readEntries registry location entries blank = .ok after) :
    (after.heading.task = none ↔ ∀ entry ∈ entries, ¬ IsTask registry entry) ∧
      (after.heading.register = none ↔ ∀ entry ∈ entries, ¬ Names "register" entry) ∧
      (after.children = [] ↔ ¬ LastFilled "block" entries) := by
  obtain ⟨htask, hregister, hchildren⟩ := readEntries_blank h
  have hnot {p q : Prop} (h : ¬ p ↔ q) : p ↔ ¬ q := by rw [← h, Classical.not_not]
  refine ⟨?_, ?_, hnot hchildren⟩
  · rw [hnot htask]
    simp
  · rw [hnot hregister]
    simp

/-- The content of an element is right exactly when its outline is valid. -/
theorem hasContent_iff {entries : List (Node × Node)}
    (h : readEntries registry location entries blank = .ok after) :
    HasContent registry entries ↔ after.validate = .ok () := by
  obtain ⟨htask, -, hchildren⟩ := readEntries_blank h
  obtain ⟨hnotask, hnoregister, hnochildren⟩ := readEntries_blank_none h
  rw [validate_eq_ok, htask, hchildren, hnotask, hnoregister, hnochildren]
  constructor
  · intro hcontent
    cases hcontent with
    | block filled task register => exact .inl ⟨filled, task, register⟩
    | task unfilled task => exact .inr ⟨unfilled, task⟩
  · rintro (⟨hfilled, hnotask, hnoregister⟩ | ⟨hunfilled, htask⟩)
    · exact .block hfilled hnotask hnoregister
    · exact .task hunfilled htask

/-! ## Elements and documents -/

mutual

theorem read_ok_iff {found : Yaml.Kind} : (location : Location) → (node : Node) →
    ((∃ outline, Outline.read registry location found node = .ok outline) ↔
      IsElement registry node)
  | location, .map entries => by
    have hentries := readEntries_ok_iff location entries blank
    rw [Outline.read]
    constructor
    · rintro ⟨outline, h⟩
      cases hread : readEntries registry location entries blank with
      | error error => simp [hread] at h
      | ok after =>
        simp only [hread] at h
        split at h
        · next hvalid =>
          obtain ⟨hfields, hsingle, -⟩ := hentries.mp ⟨after, hread⟩
          exact .intro rfl hfields hsingle ((hasContent_iff hread).mpr hvalid)
        · cases h
    · rintro ⟨mapping, fields, single, content⟩
      obtain rfl := Node.map.inj mapping
      obtain ⟨after, hread⟩ := hentries.mpr ⟨fields, single, fun h ↦ absurd rfl h⟩
      have hvalid := (hasContent_iff hread).mp content
      exact ⟨after, by simp only [hread, hvalid]⟩
  | location, .tagged tag content => by
    rw [Outline.read, read_ok_iff location content]
    constructor
    · rintro ⟨mapping, fields, single, content⟩
      exact .intro mapping fields single content
    · rintro ⟨mapping, fields, single, content⟩
      exact .intro mapping fields single content
  | _, .null | _, .bool _ | _, .int _ | _, .float _ | _, .str _ | _, .seq _ =>
    ⟨fun ⟨_, h⟩ ↦ (nomatch h), fun ⟨mapping, _, _, _⟩ ↦ (nomatch mapping)⟩

/-- Entries can be read on top of others if all are fields, and no two of all name tasks. -/
theorem readEntries_ok_iff : (location : Location) → (entries : List (Node × Node)) →
    (outline : Outline) →
    ((∃ after, readEntries registry location entries outline = .ok after) ↔
      (∀ entry ∈ entries, IsField registry entry) ∧
      (entries.Pairwise fun first second ↦
        ¬ (IsTask registry first ∧ IsTask registry second)) ∧
      (outline.heading.task ≠ none → ∀ entry ∈ entries, ¬ IsTask registry entry))
  | _, [], outline => by simp [readEntries]
  | location, (key, value) :: rest, outline => by
    have hentry := readEntry_ok_iff key value outline
      (readBlock_ok_iff (location.field "block") value)
    rw [readEntries, List.forall_mem_cons, List.forall_mem_cons, List.pairwise_cons]
    constructor
    · rintro ⟨after, h⟩
      cases hread : readEntry registry location (key, value) outline with
      | error error => simp [hread] at h
      | ok next =>
        simp only [hread] at h
        obtain ⟨hfield, hsingle⟩ := hentry.mp ⟨next, hread⟩
        obtain ⟨hfields, hpairs, hrest⟩ := (readEntries_ok_iff location rest next).mp ⟨after, h⟩
        rw [readEntry_task hread] at hrest
        exact ⟨⟨hfield, hfields⟩,
          ⟨fun entry hmem ⟨hfirst, hsecond⟩ ↦ hrest (.inr hfirst) entry hmem hsecond, hpairs⟩,
          fun hsome ↦ ⟨hsingle hsome, hrest (.inl hsome)⟩⟩
    · rintro ⟨⟨hfield, hfields⟩, ⟨hfirst, hpairs⟩, hnone⟩
      obtain ⟨next, hread⟩ := hentry.mpr ⟨hfield, fun hsome ↦ (hnone hsome).1⟩
      have hrest : next.heading.task ≠ none → ∀ entry ∈ rest, ¬ IsTask registry entry := by
        rw [readEntry_task hread]
        rintro (hsome | htask)
        · exact (hnone hsome).2
        · exact fun entry hmem hsecond ↦ hfirst entry hmem ⟨htask, hsecond⟩
      obtain ⟨after, h⟩ := (readEntries_ok_iff location rest next).mpr ⟨hfields, hpairs, hrest⟩
      exact ⟨after, by simp only [hread, h]⟩

theorem readBlock_ok_iff {found : Yaml.Kind} : (location : Location) → (node : Node) →
    ((∃ block, readBlock registry location found node = .ok block) ↔
      ∃ items, node.untagged = .seq items ∧ ∀ item ∈ items, IsElement registry item)
  | location, .seq nodes => by
    rw [readBlock, readItems_ok_iff location 0 nodes]
    simp [Node.untagged]
  | location, .tagged _ content => by
    rw [readBlock, Node.untagged]
    exact readBlock_ok_iff location content
  | _, .null | _, .bool _ | _, .int _ | _, .float _ | _, .str _ | _, .map _ =>
    ⟨fun ⟨_, h⟩ ↦ (nomatch h), fun ⟨_, sequence, _⟩ ↦ (nomatch sequence)⟩

theorem readItems_ok_iff : (location : Location) → (position : Nat) → (nodes : List Node) →
    ((∃ outlines, readItems registry location position nodes = .ok outlines) ↔
      ∀ node ∈ nodes, IsElement registry node)
  | _, _, [] => by simp [readItems]
  | location, position, node :: rest => by
    rw [List.forall_mem_cons, ← read_ok_iff (location.item position) node,
      ← readItems_ok_iff location (position + 1) rest, readItems]
    cases Outline.read registry (location.item position) node.kind node with
    | error error => simp
    | ok outline => simp [exists_map_eq_ok]

end

/-- A document is read exactly when it is one of the grammar. -/
theorem ofNode_ok_iff (registry : Registry) (document : Node) :
    (∃ tree, Document.ofNode registry document = .ok tree) ↔ IsDocument registry document := by
  rw [ofNode_eq_tree, exists_map_eq_ok]
  cases document
  case null => exact iff_of_true ⟨[], rfl⟩ .null
  case seq items =>
    rw [Outline.ofNode, readItems_ok_iff]
    constructor
    · exact .seq
    · intro h
      cases h with
      | seq elements => exact elements
  all_goals
    refine iff_of_false ?_ ?_
    · rintro ⟨outlines, h⟩
      cases h
    · intro h
      cases h

end Playbook.Grammar
