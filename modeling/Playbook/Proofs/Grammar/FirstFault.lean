import Playbook.Proofs.Forest
import Playbook.Proofs.Grammar.Element
import Playbook.Proofs.Grammar.ValueFault

/-!
# The first fault of a document

A document that is refused has a fault, and the error is about the first one: it names the way to
the node that is at fault, and everything that a reader meets before is sound. In an element a task
counts from where it was met, and the content only once all entries are sound.
-/

namespace Playbook.Grammar

open Yaml (Node)
open Document
open Outline

variable {registry : Registry} {node : Node} {location : Location} {error : ParseError}

/-! ## Entries of an element -/

/-- Reads the value under one key of an element on top of others. -/
def readValue (registry : Registry) (location : Location) (key : String) (value : Node)
    (outline : Outline) : Except ParseError Outline :=
  match ControlField.ofKey? key with
  | some .block => (readBlock registry (location.field key) value.kind value).map outline.withBlock
  | some field =>
    (readField (location.field key) field value outline.heading).map outline.withHeading
  | none =>
    if registry.has key then
      match outline.heading.task with
      | some existing => .error (.duplicateTask location existing.kind key)
      | none => (parseTask (location.field key) key value).map outline.withTask
    else .error (.unknownField location key)

theorem readEntry_eq_bind (entry : Node × Node) (outline : Outline) :
    readEntry registry location entry outline =
      (keyText location entry.1).bind (readValue registry location · entry.2 outline) := by
  rw [readEntry]
  cases keyText location entry.1 <;> rfl

/-- What the value under a key can be wrong about, depending on the task that was met before. -/
theorem readValue_error_iff {key : String} {outline : Outline}
    (hblock : ∀ location error, readBlock registry location node.kind node = .error error ↔
      Finds registry .elements node location error) :
    readValue registry location key node outline = .error error ↔
      (∃ field : ControlField, field.text = key ∧
        Finds registry (.ofField field) node (location.field key) error) ∨
      (IsKind registry key ∧ outline.heading.task = none ∧
        Finds registry (.config key) node (location.field key) error) ∨
      (IsKind registry key ∧ ∃ existing, outline.heading.task = some existing ∧
        error = .duplicateTask location existing.kind key) ∨
      (¬ Role.element.Knows registry key ∧ error = .unknownField location key) := by
  unfold readValue
  cases hkey : ControlField.ofKey? key with
  | some field =>
    obtain rfl := ofKey?_eq_some.mp hkey
    have hcontrol : ¬ IsKind registry field.text := fun h ↦ h.1 field rfl
    have hknown : Role.element.Knows registry field.text := .inl ⟨field, rfl⟩
    have hsame (other : ControlField) : other.text = field.text ↔ other = field := by
      constructor
      · intro h
        exact Option.some.inj ((ofKey?_eq_some.mpr h).symm.trans hkey)
      · exact congrArg ControlField.text
    simp only [hcontrol, hknown, hsame, false_and, not_true_eq_false, or_false, exists_eq_left]
    by_cases hfield : field = .block
    · subst hfield
      dsimp only
      rw [map_eq_error, hblock]
      rfl
    · rw [← readField_error_iff registry hfield outline.heading,
        ← map_eq_error (f := outline.withHeading)]
      cases field
      case block => exact absurd rfl hfield
      all_goals rfl
  | none =>
    have hfree := ofKey?_eq_none.mp hkey
    have hkind : IsKind registry key ↔ registry.has key = true := and_iff_right hfree
    have hknown : Role.element.Knows registry key ↔ registry.has key = true :=
      or_iff_right (not_exists.mpr hfree)
    rw [hkind, hknown]
    simp only [hfree, false_and, exists_false, false_or, ← parseTask_error_iff registry]
    cases registry.has key with
    | false => simp [eq_comm]
    | true => cases outline.heading.task <;> simp [map_eq_error, eq_comm (a := error)]

/-- The task of an outline has the kind that an entry names. -/
theorem readEntry_kind {entry : Node × Node} {outline after : Outline}
    (h : readEntry registry location entry outline = .ok after) (kind : String) :
    after.heading.task.map Invocation.kind = some kind ↔
      outline.heading.task.map Invocation.kind = some kind ∨
        IsKind registry kind ∧ Names kind entry := by
  obtain ⟨key, value⟩ := entry
  obtain ⟨text, hkey, hreads⟩ := readEntry_eq_ok.mp h
  have hnames : Names text (key, value) := string?_eq_some.mp hkey
  have hcontrol (field : ControlField) (htext : Names field.text (key, value)) :
      ¬ (IsKind registry kind ∧ Names kind (key, value)) := fun ⟨hkind, hkind'⟩ ↦
    hkind.1 field (htext.text_eq hkind')
  cases hreads with
  | block read => exact (or_iff_left (hcontrol .block hnames)).symm
  | field other read =>
    rw [or_iff_left (hcontrol _ hnames), ← readField_task read]
    rfl
  | @task _ task free registered first read =>
    have htask : (outline.withTask task).heading.task.map Invocation.kind = some text :=
      congrArg some (parseTask_kind read)
    rw [htask, first]
    constructor
    · intro hsame
      obtain rfl := Option.some.inj hsame
      exact .inr ⟨⟨ofKey?_eq_none.mp free, registered⟩, hnames⟩
    · rintro (hsome | ⟨-, hkind⟩)
      · cases hsome
      · rw [hnames.text_eq hkind]

theorem readEntries_kind {entries : List (Node × Node)} {outline after : Outline}
    (h : readEntries registry location entries outline = .ok after) (kind : String) :
    after.heading.task.map Invocation.kind = some kind ↔
      outline.heading.task.map Invocation.kind = some kind ∨
        IsKind registry kind ∧ ∃ entry ∈ entries, Names kind entry := by
  induction entries generalizing outline with
  | nil =>
    cases h
    simp
  | cons entry rest ih =>
    rw [readEntries] at h
    cases hentry : readEntry registry location entry outline with
    | error error => simp [hentry] at h
    | ok next =>
      simp only [hentry] at h
      rw [ih h, readEntry_kind hentry]
      simp only [List.mem_cons, exists_eq_or_imp, or_assoc, ← and_or_left]

/-! ## Elements -/

theorem accepts_iff (location : Location) (before : List (Node × Node)) :
    Role.element.Accepts registry before ↔
      ∃ outline, readEntries registry location before blank = .ok outline := by
  rw [readEntries_ok_iff]
  simp [Role.Accepts, blank, Outline.heading, Heading.blank]

/-- An entry of an element fails for its key or for its value, or because a task was met before. -/
theorem entryFails_element_iff {before : List (Node × Node)} {entry : Node × Node} :
    EntryFails registry location .element before entry error ↔
      keyText location entry.1 = .error error ∨ ∃ key, Names key entry ∧
        ((∃ field : ControlField, field.text = key ∧
          Finds registry (.ofField field) entry.2 (location.field key) error) ∨
        (IsKind registry key ∧ (∀ found ∈ before, ¬ IsTask registry found) ∧
          Finds registry (.config key) entry.2 (location.field key) error) ∨
        (IsKind registry key ∧ ∃ existing, (IsKind registry existing ∧
          ∃ first ∈ before, Names existing first) ∧
          error = .duplicateTask location existing key) ∨
        (¬ Role.element.Knows registry key ∧ error = .unknownField location key)) := by
  rw [keyText_error_iff]
  constructor
  · rintro (hfault | ⟨key, part, hnames, hopens, hfinds⟩)
    · cases hfault with
      | key misfit => exact .inl ⟨misfit, rfl⟩
      | unknown names unknown => exact .inr ⟨_, names, .inr (.inr (.inr ⟨unknown, rfl⟩))⟩
      | second mem names known names' known' =>
        refine .inr ⟨_, names', .inr (.inr (.inl ⟨known', ?_⟩))⟩
        exact ⟨_, ⟨known, _, mem, names⟩, rfl⟩
    · refine .inr ⟨key, hnames, ?_⟩
      cases hopens with
      | field field => exact .inl ⟨field, rfl, hfinds⟩
      | task known first => exact .inr (.inl ⟨known, first, hfinds⟩)
  · rintro (⟨hmisfit, rfl⟩ | ⟨key, hnames, hvalue⟩)
    · exact .inl (.key hmisfit)
    · rcases hvalue with ⟨field, rfl, hfinds⟩ | ⟨hknown, hfirst, hfinds⟩ |
        ⟨hknown, existing, ⟨hkind, first, hmem, hfirst⟩, rfl⟩ | ⟨hunknown, rfl⟩
      · exact .inr ⟨_, _, hnames, .field field, hfinds⟩
      · exact .inr ⟨_, _, hnames, .task hknown hfirst, hfinds⟩
      · exact .inl (.second hmem hfirst hkind hnames hknown)
      · exact .inl (.unknown hnames hunknown)

theorem readEntry_error_iff {before : List (Node × Node)} {entry : Node × Node}
    {outline : Outline} (hbefore : readEntries registry location before blank = .ok outline)
    (hblock : ∀ location error, readBlock registry location entry.2.kind entry.2 = .error error ↔
      Finds registry .elements entry.2 location error) :
    readEntry registry location entry outline = .error error ↔
      EntryFails registry location .element before entry error := by
  have hnone := (readEntries_blank_none hbefore).1
  have hsome (key : String) : (∃ existing, outline.heading.task = some existing ∧
      error = .duplicateTask location existing.kind key) ↔
      ∃ existing, (IsKind registry existing ∧ ∃ first ∈ before, Names existing first) ∧
        error = .duplicateTask location existing key := by
    have hkind := readEntries_kind hbefore
    constructor
    · rintro ⟨existing, htask, rfl⟩
      have hnamed := (hkind existing.kind).mp (congrArg (Option.map Invocation.kind) htask)
      exact ⟨existing.kind, hnamed.resolve_left nofun, rfl⟩
    · rintro ⟨existing, hnamed, rfl⟩
      obtain ⟨task, htask, rfl⟩ := Option.map_eq_some_iff.mp ((hkind existing).mpr (.inr hnamed))
      exact ⟨task, htask, rfl⟩
  rw [readEntry_eq_bind, keyText_bind_error_iff, entryFails_element_iff]
  simp only [readValue_error_iff hblock, hnone, hsome]

theorem readEntries_error_iff {entries : List (Node × Node)}
    (hblocks : ∀ entry ∈ entries, ∀ location error,
      readBlock registry location entry.2.kind entry.2 = .error error ↔
        Finds registry .elements entry.2 location error) :
    readEntries registry location entries blank = .error error ↔
      ∃ before entry after, entries = before ++ entry :: after ∧
        Role.element.Accepts registry before ∧
        EntryFails registry location .element before entry error := by
  refine error_iff_first (readEntries registry location) (readEntry registry location)
    (fun _ ↦ rfl) ?_ entries blank error (fun before ↦ (accepts_iff location before).symm)
    fun before entry outline hmem hbefore ↦ readEntry_error_iff hbefore (hblocks entry hmem)
  intro entry rest outline
  rw [readEntries]
  cases readEntry registry location entry outline <;> rfl

theorem validate_error_iff {outline : Outline} {fault : Element.Fault} :
    outline.validate = .error fault ↔
      (fault = .blockWithRegister ∧ outline.children ≠ [] ∧ outline.heading.register ≠ none) ∨
      (fault = .blockWithTask ∧ outline.children ≠ [] ∧ outline.heading.register = none ∧
        outline.heading.task ≠ none) ∨
      (fault = .noContent ∧ outline.children = [] ∧ outline.heading.task = none) := by
  unfold validate
  cases outline.children <;> cases outline.heading.task <;>
    cases outline.heading.register <;> simp [eq_comm]

theorem breaksContent_iff {entries : List (Node × Node)} {outline : Outline}
    {fault : Element.Fault} (h : readEntries registry location entries blank = .ok outline) :
    BreaksContent registry entries fault ↔ outline.validate = .error fault := by
  obtain ⟨htask, hregister, hchildren⟩ := readEntries_blank h
  obtain ⟨hnotask, hnoregister, hnochildren⟩ := readEntries_blank_none h
  rw [validate_error_iff, htask, hregister, hchildren, hnotask, hnoregister, hnochildren]
  constructor
  · intro hbreaks
    cases hbreaks with
    | blockWithRegister filled register => exact .inl ⟨rfl, filled, register⟩
    | blockWithTask filled register task => exact .inr (.inl ⟨rfl, filled, register, task⟩)
    | noContent unfilled task => exact .inr (.inr ⟨rfl, unfilled, task⟩)
  · rintro (⟨rfl, hfilled, hregister⟩ | ⟨rfl, hfilled, hregister, htask⟩ | ⟨rfl, hunfilled, htask⟩)
    · exact .blockWithRegister hfilled hregister
    · exact .blockWithTask hfilled hregister htask
    · exact .noContent hunfilled htask

theorem ruleFault_element_iff {entries : List (Node × Node)} :
    RuleFault registry location entries .element error ↔ ∃ fault,
      BreaksContent registry entries fault ∧ error = .invalidElement location fault.message := by
  constructor
  · intro h
    cases h with
    | content breaks => exact ⟨_, breaks, rfl⟩
  · rintro ⟨fault, hbreaks, rfl⟩
    exact .content hbreaks

/-! ## Tags -/

/-- The items of a node that is a sequence and the values of one that is a mapping, under tags or
not, have the property. -/
def Parts (motive : Node → Prop) (node : Node) : Prop :=
  (∀ items, node.untagged = .seq items → ∀ item ∈ items, motive item) ∧
    ∀ entries, node.untagged = .map entries → ∀ entry ∈ entries, motive entry.2

mutual

theorem parts_of_step {motive : Node → Prop} (step : ∀ node, Parts motive node → motive node) :
    (node : Node) → Parts motive node
  | .seq items => by
    refine ⟨fun found hfound ↦ ?_, nofun⟩
    rw [← Node.seq.inj hfound]
    exact items_of_step step items
  | .map entries => by
    refine ⟨nofun, fun found hfound ↦ ?_⟩
    rw [← Node.map.inj hfound]
    exact entries_of_step step entries
  | .tagged _ content => parts_of_step step content
  | .null | .bool _ | .int _ | .float _ | .str _ => ⟨nofun, nofun⟩

theorem items_of_step {motive : Node → Prop} (step : ∀ node, Parts motive node → motive node) :
    (items : List Node) → ∀ item ∈ items, motive item
  | [] => by simp
  | item :: rest =>
    List.forall_mem_cons.mpr ⟨step item (parts_of_step step item), items_of_step step rest⟩

theorem entries_of_step {motive : Node → Prop} (step : ∀ node, Parts motive node → motive node) :
    (entries : List (Node × Node)) → ∀ entry ∈ entries, motive entry.2
  | [] => by simp
  | (_, value) :: rest =>
    List.forall_mem_cons.mpr ⟨step value (parts_of_step step value), entries_of_step step rest⟩

end

/-- Induction over nodes that looks through tags. -/
theorem induction_parts {motive : Node → Prop} (step : ∀ node, Parts motive node → motive node)
    (node : Node) : motive node :=
  step node (parts_of_step step node)

theorem read_untagged {found : Yaml.Kind} : (node : Node) →
    Outline.read registry location found node.untagged = Outline.read registry location found node
  | .tagged _ content => by
    rw [Outline.read]
    exact read_untagged content
  | .null | .bool _ | .int _ | .float _ | .str _ | .seq _ | .map _ => rfl

theorem readBlock_untagged {found : Yaml.Kind} : (node : Node) →
    readBlock registry location found node.untagged = readBlock registry location found node
  | .tagged _ content => by
    rw [readBlock]
    exact readBlock_untagged content
  | .null | .bool _ | .int _ | .float _ | .str _ | .seq _ | .map _ => rfl

theorem read_misfit {found : Yaml.Kind} : (node : Node) → ¬ Fits .mapping node →
    Outline.read registry location found node = .error (unexpected location .mapping found)
  | .map entries, hmisfit => absurd ⟨entries, rfl⟩ hmisfit
  | .tagged _ content, hmisfit => by
    rw [Outline.read]
    exact read_misfit content hmisfit
  | .null, _ | .bool _, _ | .int _, _ | .float _, _ | .str _, _ | .seq _, _ => rfl

theorem readBlock_misfit {found : Yaml.Kind} : (node : Node) → ¬ Fits .sequence node →
    readBlock registry location found node = .error (unexpected location .sequence found)
  | .seq items, hmisfit => absurd ⟨items, rfl⟩ hmisfit
  | .tagged _ content, hmisfit => by
    rw [readBlock]
    exact readBlock_misfit content hmisfit
  | .null, _ | .bool _, _ | .int _, _ | .float _, _ | .str _, _ | .map _, _ => rfl

/-! ## Documents -/

theorem finds_elements_iff {nodes : List Node} (sequence : node.untagged = .seq nodes) :
    Finds registry .elements node location error ↔
      ∃ before item after, nodes = before ++ item :: after ∧
        (∀ found ∈ before, IsElement registry found) ∧
        Finds registry .element item (location.item before.length) error := by
  rw [finds_iff]
  constructor
  · rintro (hfault | ⟨step, part, inner, hchild, hfinds⟩)
    · cases hfault with
      | shape misfit => exact absurd (.fits ⟨nodes, sequence⟩) misfit
      | entry _ earlier => exact earlier.elim
      | rule _ sound => exact sound.elim
    · cases hchild with
      | element sequence' earlier =>
        obtain rfl := Node.seq.inj (sequence.symm.trans sequence')
        exact ⟨_, _, _, rfl, earlier, hfinds⟩
      | value _ earlier => exact earlier.elim
  · rintro ⟨before, item, after, rfl, hbefore, hfinds⟩
    exact .inr ⟨_, _, _, .element sequence hbefore, hfinds⟩

theorem readItems_error_iff {position : Nat} {nodes : List Node}
    (hitems : ∀ item ∈ nodes, ∀ location error,
      Outline.read registry location item.kind item = .error error ↔
        Finds registry .element item location error) :
    readItems registry location position nodes = .error error ↔
      ∃ before item after, nodes = before ++ item :: after ∧
        (∀ found ∈ before, IsElement registry found) ∧
        Finds registry .element item (location.item (position + before.length)) error := by
  refine (exists_first_error_at (IsElement registry) (readItems registry location)
    (fun position node ↦ Outline.read registry (location.item position) node.kind node)
    (fun _ _ ↦ nofun) ?_ (fun position node ↦ read_ok_iff (location.item position) node)
    nodes position error).trans ?_
  · intro position node rest e
    rw [readItems]
    cases Outline.read registry (location.item position) node.kind node <;> simp [map_eq_error]
  · constructor
    · rintro ⟨before, item, after, rfl, hbefore, hitem⟩
      have hread := hitems item (List.mem_append_right before List.mem_cons_self)
      exact ⟨before, item, after, rfl, hbefore, (hread _ _).mp hitem⟩
    · rintro ⟨before, item, after, rfl, hbefore, hfinds⟩
      have hread := hitems item (List.mem_append_right before List.mem_cons_self)
      exact ⟨before, item, after, rfl, hbefore, (hread _ _).mpr hfinds⟩

/-- The readers of elements and of blocks fail exactly where there is a fault. -/
theorem read_error_iff (node : Node) :
    (∀ location error, Outline.read registry location node.kind node = .error error ↔
      Finds registry .element node location error) ∧
    ∀ location error, readBlock registry location node.kind node = .error error ↔
      Finds registry .elements node location error := by
  induction node using induction_parts with
  | step node hparts =>
    constructor
    · intro location error
      by_cases hfits : Fits .mapping node
      · obtain ⟨entries, mapping⟩ := hfits
        rw [finds_entries_iff mapping (.inl rfl), ← read_untagged, mapping, Outline.read,
          ← readEntries_error_iff fun entry hmem ↦ (hparts.2 entries mapping entry hmem).2,
          accepts_iff location, ruleFault_element_iff]
        cases hread : readEntries registry location entries blank with
        | error fault => simp
        | ok outline =>
          simp only [breaksContent_iff hread]
          cases outline.validate <;> simp [eq_comm]
      · rw [read_misfit node hfits, finds_misfit_iff .element (by simp) hfits]
        simp [unexpected, Role.refusal, Role.shape, eq_comm]
    · intro location error
      by_cases hfits : Fits .sequence node
      · obtain ⟨nodes, sequence⟩ := hfits
        rw [finds_elements_iff sequence, ← readBlock_untagged, sequence, readBlock,
          readItems_error_iff fun item hmem ↦ (hparts.1 nodes sequence item hmem).1]
        simp only [Nat.zero_add]
      · rw [readBlock_misfit node hfits, finds_misfit_iff .elements (by simp) hfits]
        simp [unexpected, Role.refusal, Role.shape, eq_comm]

/-- A document that is a sequence is refused exactly if it has a fault behind parts that are all
sound. The error names the way from the document to the node that is at fault, its message begins
with this way, and it says what is wrong with this node. -/
theorem ofNode_error_iff (registry : Registry) (nodes : List Node) (error : ParseError) :
    Document.ofNode registry (.seq nodes) = .error error ↔
      ∃ location role node, error.location? = some location ∧
        (∃ said, error.message = location.text ++ said) ∧
        Way registry .elements (.seq nodes) location role node ∧
        Fault registry location role node error := by
  have hread : Document.ofNode registry (.seq nodes) = .error error ↔
      readBlock registry [] .sequence (.seq nodes) = .error error := by
    rw [ofNode_eq_tree, map_eq_error]
    rfl
  refine hread.trans (((read_error_iff (.seq nodes)).2 [] error).trans ?_)
  constructor
  · rintro ⟨way, role, node, hway, hfault⟩
    exact ⟨way, role, node, hfault.location?, message_of_location? hfault.location?, hway, hfault⟩
  · rintro ⟨way, role, node, -, -, hway, hfault⟩
    exact ⟨way, role, node, hway, hfault⟩

/-- The flag of the second element in a block is no boolean. -/
example : (match Document.ofNode ⟨.ofList [("echo", .echo)]⟩ (.seq [.map [(.str "block", .seq
      [.map [(.str "echo", .map [])], .map [(.str "ignore_errors", .str "no")]])]]) with
    | .ok _ => ""
    | .error error => error.message) =
      "[0].block[1].ignore_errors: expected boolean, found string" := by
  decide +kernel

end Playbook.Grammar
