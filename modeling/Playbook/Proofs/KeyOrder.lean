import Playbook.Proofs.Rewriting
import Playbook.Proofs.PushDown

/-!
# The order of keys

The entries of a mapping may stand in any order as long as no two have the same key. This holds of
the mappings of elements, of their variables and of their loops, at all levels of a document at
once: a document with other orders is read if the first one is, and into the same tree. What is met
first decides about nothing but which error is told.
-/

namespace Playbook

open Document
open Yaml (Node)
open Grammar (Names string?_eq_some map?_eq_some)

/-! ## Other orders -/

/-- No two entries have the same key, whatever tags the keys have. -/
def DistinctKeys (entries : List (Node × Node)) : Prop :=
  entries.Pairwise fun first second ↦ first.1.untagged ≠ second.1.untagged

theorem DistinctKeys.perm {entries entries' : List (Node × Node)} (h : DistinctKeys entries)
    (hperm : entries.Perm entries') : DistinctKeys entries' :=
  (hperm.pairwise_iff fun hne ↦ hne.symm).mp h

/-- The same node, or a mapping whose entries stand in another order. -/
inductive Permuted : Node → Node → Prop where
  | same (node : Node) : Permuted node node
  | tagged {content content' : Node} (tag : String) (inside : Permuted content content') :
      Permuted (.tagged tag content) (.tagged tag content')
  | map {entries entries' : List (Node × Node)} (distinct : DistinctKeys entries)
      (perm : entries.Perm entries') : Permuted (.map entries) (.map entries')

mutual

/-- The same element, or one whose entries stand in another order, and so do those inside them. -/
inductive ElementReordered : Node → Node → Prop where
  | same (node : Node) : ElementReordered node node
  | tagged {content content' : Node} (tag : String) (inside : ElementReordered content content') :
      ElementReordered (.tagged tag content) (.tagged tag content')
  | map {entries between entries' : List (Node × Node)} (distinct : DistinctKeys entries)
      (inside : EntriesReordered entries between) (perm : between.Perm entries') :
      ElementReordered (.map entries) (.map entries')

/-- Entries of an element in the same order, inside which the order may be another. -/
inductive EntriesReordered : List (Node × Node) → List (Node × Node) → Prop where
  | nil : EntriesReordered [] []
  | cons {entry entry' : Node × Node} {rest rest' : List (Node × Node)}
      (first : EntryReordered entry entry') (others : EntriesReordered rest rest') :
      EntriesReordered (entry :: rest) (entry' :: rest')

/-- An entry of an element with the variables, the loop or the block in another order; other values
are as they were. -/
inductive EntryReordered : Node × Node → Node × Node → Prop where
  | same (entry : Node × Node) : EntryReordered entry entry
  | environment {key value value' : Node}
      (names : Names ControlField.environment.text (key, value))
      (inside : Permuted value value') : EntryReordered (key, value) (key, value')
  | loop {key value value' : Node} (names : Names ControlField.loop.text (key, value))
      (inside : Permuted value value') : EntryReordered (key, value) (key, value')
  | block {key value value' : Node} (names : Names ControlField.block.text (key, value))
      (inside : SequenceReordered value value') : EntryReordered (key, value) (key, value')

/-- The same node, or a sequence of elements with other orders inside. -/
inductive SequenceReordered : Node → Node → Prop where
  | same (node : Node) : SequenceReordered node node
  | tagged {content content' : Node} (tag : String) (inside : SequenceReordered content content') :
      SequenceReordered (.tagged tag content) (.tagged tag content')
  | seq {nodes nodes' : List Node} (inside : ItemsReordered nodes nodes') :
      SequenceReordered (.seq nodes) (.seq nodes')

inductive ItemsReordered : List Node → List Node → Prop where
  | nil : ItemsReordered [] []
  | cons {node node' : Node} {rest rest' : List Node} (first : ElementReordered node node')
      (others : ItemsReordered rest rest') : ItemsReordered (node :: rest) (node' :: rest')

end

/-! ## Reading entries in any order -/

/-- Entries are read step by step, and the steps of two entries with different keys may be
exchanged. -/
structure OrderFree {σ : Type} (readAll : List (Node × Node) → σ → Except ParseError σ)
    (step : Node × Node → σ → σ → Prop) : Prop where
  cons : ∀ {entry : Node × Node} {rest : List (Node × Node)} {s after : σ},
    readAll (entry :: rest) s = .ok after ↔
      ∃ between, step entry s between ∧ readAll rest between = .ok after
  swap : ∀ {first second : Node × Node} {s between after : σ},
    first.1.untagged ≠ second.1.untagged → step first s between → step second between after →
      ∃ between', step second s between' ∧ step first between' after

namespace OrderFree

variable {σ : Type} {readAll : List (Node × Node) → σ → Except ParseError σ}
  {step : Node × Node → σ → σ → Prop} {entries entries' : List (Node × Node)} {s after : σ}

theorem of_perm (h : OrderFree readAll step) (hperm : entries.Perm entries')
    (hdistinct : DistinctKeys entries) (hread : readAll entries s = .ok after) :
    readAll entries' s = .ok after := by
  induction hperm generalizing s after with
  | nil => exact hread
  | cons entry _ ih =>
    obtain ⟨between, hentry, hrest⟩ := h.cons.mp hread
    exact h.cons.mpr ⟨between, hentry, ih hdistinct.of_cons hrest⟩
  | swap first second rest =>
    obtain ⟨_, hsecond, hread⟩ := h.cons.mp hread
    obtain ⟨last, hfirst, hrest⟩ := h.cons.mp hread
    have hne : second.1.untagged ≠ first.1.untagged :=
      List.rel_of_pairwise_cons hdistinct List.mem_cons_self
    obtain ⟨between, hfirst, hsecond⟩ := h.swap hne hsecond hfirst
    exact h.cons.mpr ⟨between, hfirst, h.cons.mpr ⟨last, hsecond, hrest⟩⟩
  | trans hfirst _ ih ih' => exact ih' (hdistinct.perm hfirst) (ih hdistinct hread)

theorem perm_iff (h : OrderFree readAll step) (hdistinct : DistinctKeys entries)
    (hperm : entries.Perm entries') :
    readAll entries s = .ok after ↔ readAll entries' s = .ok after :=
  ⟨h.of_perm hperm hdistinct, h.of_perm hperm.symm (hdistinct.perm hperm)⟩

end OrderFree

/-! ## Variables and loops -/

theorem SortedMap.insert_comm {α : Type} (map : SortedMap α) {key other : String} (h : key ≠ other)
    (value value' : α) :
    (map.insert key value).insert other value' = (map.insert other value').insert key value := by
  apply SortedMap.ext_get?
  intro found
  rw [get?_insert, get?_insert, get?_insert, get?_insert]
  split
  · next hfound =>
    rw [if_neg]
    rintro rfl
    exact h hfound
  · rfl

theorem string?_ne {key other : Node} {name name' : String} (h : key.untagged ≠ other.untagged)
    (hname : key.string? = some name) (hname' : other.string? = some name') : name ≠ name' := by
  rintro rfl
  exact h ((string?_eq_some.mp hname).trans (string?_eq_some.mp hname').symm)

theorem Permuted.map? {value value' : Node} (h : Permuted value value') :
    value'.map? = value.map? ∨ ∃ entries entries', value.map? = some entries ∧
      value'.map? = some entries' ∧ DistinctKeys entries ∧ entries.Perm entries' := by
  induction h with
  | same => exact .inl rfl
  | tagged _ _ ih => exact ih
  | map distinct perm => exact .inr ⟨_, _, rfl, rfl, distinct, perm⟩

namespace Document

variable {location : Location}

theorem parseVariables_orderFree (location : Location) :
    OrderFree (fun entries environment ↦ parseVariables location environment entries)
      fun entry environment after ↦ ∃ name text, entry.1.string? = some name ∧
        entry.2.scalar? = some text ∧ environment.insert name text = after where
  cons := by
    intro entry rest environment after
    rw [parseVariables_cons]
    constructor
    · rintro ⟨name, text, hname, htext, hrest⟩
      exact ⟨_, ⟨name, text, hname, htext, rfl⟩, hrest⟩
    · rintro ⟨_, ⟨name, text, hname, htext, rfl⟩, hrest⟩
      exact ⟨name, text, hname, htext, hrest⟩
  swap := by
    rintro first second environment _ _ hne ⟨name, text, hname, htext, rfl⟩
      ⟨name', text', hname', htext', rfl⟩
    refine ⟨_, ⟨name', text', hname', htext', rfl⟩, name, text, hname, htext, ?_⟩
    exact SortedMap.insert_comm environment (string?_ne hne hname hname').symm text' text

theorem parseLoopParts_orderFree (location : Location) :
    OrderFree (fun entries parts ↦ parseLoopParts location parts.1 parts.2 entries)
      fun entry parts after ↦
        (Names "var" entry ∧ ∃ template,
          scalarText (location.field "var") entry.2 = .ok template ∧
          (some template, parts.2) = after) ∨
        (Names "items" entry ∧ ∃ values, parseLoopItems location entry.2 = .ok values ∧
          (parts.1, some values) = after) where
  cons := by
    rintro ⟨key, value⟩ rest parts after
    rw [Grammar.parseLoopParts_cons]
    constructor
    · rintro (⟨hnames, template, htemplate, hrest⟩ | ⟨hnames, values, hvalues, hrest⟩)
      · exact ⟨_, .inl ⟨hnames, template, htemplate, rfl⟩, hrest⟩
      · exact ⟨_, .inr ⟨hnames, values, hvalues, rfl⟩, hrest⟩
    · rintro ⟨_, ⟨hnames, template, htemplate, rfl⟩ | ⟨hnames, values, hvalues, rfl⟩, hrest⟩
      · exact .inl ⟨hnames, template, htemplate, hrest⟩
      · exact .inr ⟨hnames, values, hvalues, hrest⟩
  swap := by
    rintro first second parts _ _ hne
      (⟨hvar, template, htemplate, rfl⟩ | ⟨hitems, values, hvalues, rfl⟩)
      (⟨hvar', template', htemplate', rfl⟩ | ⟨hitems', values', hvalues', rfl⟩)
    · exact absurd (hvar.trans hvar'.symm) hne
    · exact ⟨_, .inr ⟨hitems', values', hvalues', rfl⟩, .inl ⟨hvar, template, htemplate, rfl⟩⟩
    · exact ⟨_, .inl ⟨hvar', template', htemplate', rfl⟩, .inr ⟨hitems, values, hvalues, rfl⟩⟩
    · exact absurd (hitems.trans hitems'.symm) hne

theorem parseEnvironment_permuted {value value' : Node} (h : Permuted value value')
    (location : Location) {environment : Environment} :
    parseEnvironment location value = .ok environment ↔
      parseEnvironment location value' = .ok environment := by
  unfold parseEnvironment
  rcases h.map? with hsame | ⟨entries, entries', hmap, hmap', hdistinct, hperm⟩
  · rw [hsame]
    cases value.map? <;> simp
  · rw [hmap, hmap']
    exact (parseVariables_orderFree location).perm_iff hdistinct hperm

theorem parseLoop_eq_ok {value : Node} {spec : LoopSpec} :
    parseLoop location value = .ok spec ↔ ∃ entries, value.map? = some entries ∧
      ∃ parts, parseLoopParts location none none entries = .ok parts ∧
        LoopSpec.ofParts parts.1 parts.2 = .ok spec := by
  unfold parseLoop
  cases value.map? with
  | none => simp
  | some entries =>
    dsimp only
    cases hparts : parseLoopParts location none none entries with
    | error error => simp [hparts]
    | ok parts =>
      simp only [Option.some.injEq, exists_eq_left', hparts, Except.ok.injEq]
      cases LoopSpec.ofParts parts.1 parts.2 <;> simp

theorem parseLoop_permuted {value value' : Node} (h : Permuted value value')
    (location : Location) {spec : LoopSpec} :
    parseLoop location value = .ok spec ↔ parseLoop location value' = .ok spec := by
  rw [parseLoop_eq_ok, parseLoop_eq_ok]
  rcases h.map? with hsame | ⟨entries, entries', hmap, hmap', hdistinct, hperm⟩
  · rw [hsame]
  · rw [hmap, hmap']
    have hparts (parts : Option String × Option (List Json)) :
        parseLoopParts location none none entries = .ok parts ↔
          parseLoopParts location none none entries' = .ok parts :=
      (parseLoopParts_orderFree location).perm_iff (s := (none, none)) hdistinct hperm
    simp only [Option.some.injEq, exists_eq_left', hparts]

end Document

/-! ## Elements -/

/-- The heading with one field as in another heading. -/
def Heading.withField (heading : Heading) (field : ControlField) (source : Heading) : Heading :=
  match field with
  | .name => { heading with name := source.name }
  | .register => { heading with register := source.register }
  | .guards => { heading with guards := source.guards }
  | .environment => { heading with environment := source.environment }
  | .loop => { heading with loop := source.loop }
  | .ignoreErrors => { heading with ignoreErrors := source.ignoreErrors }
  | .block => heading

namespace Heading

theorem withField_comm {field other : ControlField} (h : field ≠ other)
    (heading source source' : Heading) :
    (heading.withField field source).withField other source' =
      (heading.withField other source').withField field source := by
  cases field <;> cases other <;> first | rfl | exact absurd rfl h

theorem withField_task (heading : Heading) (field : ControlField) (source : Heading) :
    (heading.withField field source).task = heading.task := by
  cases field <;> rfl

theorem withField_withTask (heading : Heading) (field : ControlField) (source : Heading)
    (task : Option Invocation) : { heading with task }.withField field source =
      { heading.withField field source with task } := by
  cases field <;> rfl

end Heading

namespace Outline

variable {registry : Registry} {location place place' : Location}

/-- Reading a field sets it, to a value that does not depend on the heading. -/
theorem readField_eq_withField {field : ControlField} {value : Node} {heading after : Heading}
    (h : readField place field value heading = .ok after) (other : Heading) :
    readField place field value other = .ok (other.withField field after) := by
  cases field with
  | block => rfl
  | _ =>
    obtain ⟨found, hfound, rfl⟩ := map_eq_ok.mp h
    rw [readField, hfound]
    rfl

theorem readField_swap {field other : ControlField} (hne : field ≠ other) {value value' : Node}
    {heading between after : Heading}
    (hfirst : readField place field value heading = .ok between)
    (hsecond : readField place' other value' between = .ok after) :
    ∃ between', readField place' other value' heading = .ok between' ∧
      readField place field value between' = .ok after := by
  have hbetween : between = heading.withField field between :=
    Except.ok.inj (hfirst.symm.trans (readField_eq_withField hfirst heading))
  have hafter : after = between.withField other after :=
    Except.ok.inj (hsecond.symm.trans (readField_eq_withField hsecond between))
  refine ⟨heading.withField other after, readField_eq_withField hsecond heading, ?_⟩
  rw [readField_eq_withField hfirst, ← Heading.withField_comm hne, ← hbetween, ← hafter]

/-- Two entries with different keys can be read in either order. -/
theorem Reads.swap {outline between after : Outline} {value value' : Node} {text text' : String}
    (hne : text ≠ text') (hfirst : Reads registry location value outline text between)
    (hsecond : Reads registry location value' between text' after) :
    ∃ between', Reads registry location value' outline text' between' ∧
      Reads registry location value between' text after := by
  cases hfirst with
  | block read =>
    cases hsecond with
    | block read' => exact absurd rfl hne
    | field other read' => exact ⟨_, .field other read', .block read⟩
    | task free registered first read' => exact ⟨_, .task free registered first read', .block read⟩
  | @field field heading other read =>
    cases hsecond with
    | block read' => exact ⟨_, .block read', .field other read⟩
    | @field field' heading' other' read' =>
      have hfields : field ≠ field' := fun heq ↦ hne (congrArg ControlField.text heq)
      obtain ⟨between, hread', hread⟩ := readField_swap hfields read read'
      exact ⟨_, .field other' hread', .field other hread⟩
    | @task kind task free registered first read' =>
      have hheading : heading = outline.heading.withField field heading :=
        Except.ok.inj (read.symm.trans (readField_eq_withField read outline.heading))
      have hfirst : outline.heading.task = none := by
        rw [← Heading.withField_task outline.heading field heading, ← hheading]
        exact first
      have hread := readField_eq_withField read { outline.heading with task := some task }
      rw [Heading.withField_withTask, ← hheading] at hread
      exact ⟨_, .task free registered hfirst read', .field other hread⟩
  | @task kind task free registered first read =>
    cases hsecond with
    | block read' => exact ⟨_, .block read', .task free registered first read⟩
    | @field field heading other read' =>
      have hread := readField_eq_withField read' outline.heading
      have hheading : heading =
          { outline.heading.withField field heading with task := some task } := by
        rw [← Heading.withField_withTask]
        exact Except.ok.inj (read'.symm.trans (readField_eq_withField read' _))
      have hfirst : (outline.heading.withField field heading).task = none := by
        rw [Heading.withField_task, first]
      have hafter : (outline.withTask task).withHeading heading =
          (outline.withHeading (outline.heading.withField field heading)).withTask task :=
        congrArg outline.withHeading hheading
      rw [hafter]
      exact ⟨_, .field other hread, .task free registered hfirst read⟩
    | task _ _ first' _ => cases first'

theorem readEntries_orderFree (registry : Registry) (location : Location) :
    OrderFree (readEntries registry location)
      fun entry outline after ↦ readEntry registry location entry outline = .ok after where
  cons := readEntries_cons
  swap := by
    rintro ⟨key, value⟩ ⟨key', value'⟩ outline between after hne hfirst hsecond
    obtain ⟨text, hkey, hreads⟩ := readEntry_eq_ok.mp hfirst
    obtain ⟨text', hkey', hreads'⟩ := readEntry_eq_ok.mp hsecond
    obtain ⟨between', hsecond, hfirst⟩ := hreads.swap (string?_ne hne hkey hkey') hreads'
    exact ⟨between', readEntry_eq_ok.mpr ⟨text', hkey', hsecond⟩,
      readEntry_eq_ok.mpr ⟨text, hkey, hfirst⟩⟩

/-! ## All levels at once -/

theorem readEntry_field_iff {field : ControlField} (hother : field ≠ .block)
    {entry : Node × Node} (hnames : Names field.text entry) {outline after : Outline} :
    readEntry registry location entry outline = .ok after ↔
      ∃ heading, readField (location.field field.text) field entry.2 outline.heading =
        .ok heading ∧ after = outline.withHeading heading := by
  refine ⟨readEntry_names_field hother hnames, ?_⟩
  rintro ⟨heading, hread, rfl⟩
  exact readEntry_eq_ok.mpr ⟨field.text, string?_eq_some.mpr hnames, .field hother hread⟩

theorem readEntry_block_iff {entry : Node × Node} (hnames : Names ControlField.block.text entry)
    {outline after : Outline} :
    readEntry registry location entry outline = .ok after ↔
      ∃ block, readBlock registry (location.field "block") entry.2.kind entry.2 = .ok block ∧
        after = outline.withBlock block := by
  constructor
  · intro h
    obtain ⟨text, hkey, hreads⟩ := readEntry_eq_ok.mp h
    have htext : text = "block" := string?_eq_of_names hkey hnames
    cases hreads with
    | block read => exact ⟨_, read, rfl⟩
    | field other _ => exact absurd htext (text_ne_block other)
    | task free _ _ _ => exact absurd htext.symm (ofKey?_eq_none.mp free .block)
  · rintro ⟨block, hread, rfl⟩
    exact readEntry_eq_ok.mpr ⟨"block", string?_eq_some.mpr hnames, .block hread⟩

theorem readItems_cons {position : Nat} {node : Node} {rest : List Node}
    {outlines : List Outline} :
    readItems registry location position (node :: rest) = .ok outlines ↔
      ∃ outline others, read registry (location.item position) node.kind node = .ok outline ∧
        readItems registry location (position + 1) rest = .ok others ∧
        outline :: others = outlines := by
  rw [readItems]
  cases read registry (location.item position) node.kind node with
  | error error => simp
  | ok outline => simp [map_eq_ok]

end Outline

theorem ElementReordered.kind_eq {node other : Node} (h : ElementReordered node other) :
    other.kind = node.kind := by
  cases h <;> rfl

theorem SequenceReordered.kind_eq {node other : Node} (h : SequenceReordered node other) :
    other.kind = node.kind := by
  cases h <;> rfl

theorem EntriesReordered.keys_eq {entries entries' : List (Node × Node)} :
    EntriesReordered entries entries' → entries'.map (·.1) = entries.map (·.1)
  | .nil => rfl
  | .cons first others => by
    have hkey {entry entry' : Node × Node} (h : EntryReordered entry entry') :
        entry'.1 = entry.1 := by
      rcases h with _ | _ | _ | _ <;> rfl
    rw [List.map_cons, List.map_cons, hkey first, others.keys_eq]

theorem EntriesReordered.distinct {entries entries' : List (Node × Node)}
    (h : EntriesReordered entries entries') (hdistinct : DistinctKeys entries) :
    DistinctKeys entries' := by
  have hkeys (entries : List (Node × Node)) : DistinctKeys entries ↔
      (entries.map (·.1)).Pairwise fun first second ↦ first.untagged ≠ second.untagged := by
    rw [List.pairwise_map]
    rfl
  rw [hkeys, h.keys_eq]
  exact (hkeys entries).mp hdistinct

open Outline

mutual

theorem ElementReordered.read_iff {registry : Registry} {location : Location}
    {found : Yaml.Kind} {outline : Outline} {node other : Node} :
    ElementReordered node other → (Outline.read registry location found node = .ok outline ↔
      Outline.read registry location found other = .ok outline)
  | .same _ => Iff.rfl
  | .tagged _ inside => by
    rw [Outline.read, Outline.read]
    exact inside.read_iff
  | .map distinct inside perm => by
    rw [read_untagged (.map _) rfl, read_untagged (.map _) rfl, inside.read_iff,
      (readEntries_orderFree registry location).perm_iff (inside.distinct distinct) perm]

theorem EntriesReordered.read_iff {registry : Registry} {location : Location}
    {outline after : Outline} {entries entries' : List (Node × Node)} :
    EntriesReordered entries entries' → (readEntries registry location entries outline = .ok after ↔
      readEntries registry location entries' outline = .ok after)
  | .nil => Iff.rfl
  | .cons first others => by
    rw [readEntries_cons, readEntries_cons]
    simp only [first.read_iff, others.read_iff]

theorem EntryReordered.read_iff {registry : Registry} {location : Location}
    {outline after : Outline} {entry entry' : Node × Node} :
    EntryReordered entry entry' → (readEntry registry location entry outline = .ok after ↔
      readEntry registry location entry' outline = .ok after)
  | .same _ => Iff.rfl
  | @EntryReordered.environment key value value' names inside => by
    have names' : Names ControlField.environment.text (key, value') := names
    rw [readEntry_field_iff (by decide) names, readEntry_field_iff (by decide) names']
    simp only [readField, map_eq_ok, parseEnvironment_permuted inside]
  | @EntryReordered.loop key value value' names inside => by
    have names' : Names ControlField.loop.text (key, value') := names
    rw [readEntry_field_iff (by decide) names, readEntry_field_iff (by decide) names']
    simp only [readField, map_eq_ok, parseLoop_permuted inside]
  | @EntryReordered.block key value value' names inside => by
    have names' : Names ControlField.block.text (key, value') := names
    rw [readEntry_block_iff names, readEntry_block_iff names', inside.kind_eq]
    simp only [inside.read_iff]

theorem SequenceReordered.read_iff {registry : Registry} {location : Location}
    {found : Yaml.Kind} {block : List Outline} {node other : Node} :
    SequenceReordered node other → (readBlock registry location found node = .ok block ↔
      readBlock registry location found other = .ok block)
  | .same _ => Iff.rfl
  | .tagged _ inside => by
    rw [readBlock, readBlock]
    exact inside.read_iff
  | .seq inside => by
    rw [readBlock, readBlock]
    exact inside.read_iff

theorem ItemsReordered.read_iff {registry : Registry} {location : Location} {position : Nat}
    {outlines : List Outline} {nodes nodes' : List Node} :
    ItemsReordered nodes nodes' → (readItems registry location position nodes = .ok outlines ↔
      readItems registry location position nodes' = .ok outlines)
  | .nil => Iff.rfl
  | .cons first others => by
    rw [readItems_cons, readItems_cons, first.kind_eq]
    simp only [first.read_iff, others.read_iff]

end

/-- A document in which the entries of elements, of their variables and of their loops stand in
other orders is read if and only if the document is, and then into the same tree. -/
theorem ofNode_reordered (registry : Registry) {document other : Node}
    (h : SequenceReordered document other) (tree : Tree) :
    Document.ofNode registry document = .ok tree ↔ Document.ofNode registry other = .ok tree := by
  cases h with
  | same => rfl
  | tagged tag inside =>
    have hrefused (content : Node) : Document.ofNode registry (.tagged tag content) =
        .error (unexpected .document .sequence .tagged) := rfl
    rw [hrefused, hrefused]
  | seq inside =>
    rw [ofNode_seq, ofNode_seq, map_eq_ok, map_eq_ok]
    simp only [inside.read_iff]

/-- A task in a block with variables and a loop. -/
def orderedNode : Node :=
  .seq [.map [
    (.str "environment", .map [(.str "A", .str "1"), (.tagged "!t" (.str "B"), .int 2)]),
    (.str "loop", .map [(.str "var", .str "[]"), (.str "items", .seq [])]),
    (.str "block", .seq [.map [(.str "name", .str "n"), (.str "echo", .map [])]])]]

/-- The same with the entries of all five mappings the other way round. -/
def turnedNode : Node :=
  .seq [.map [
    (.str "block", .seq [.map [(.str "echo", .map []), (.str "name", .str "n")]]),
    (.str "loop", .map [(.str "items", .seq []), (.str "var", .str "[]")]),
    (.str "environment", .map [(.tagged "!t" (.str "B"), .int 2), (.str "A", .str "1")])]]

theorem sequenceReordered_turned : SequenceReordered orderedNode turnedNode := by
  have hvariables : Permuted (.map [(.str "A", .str "1"), (.tagged "!t" (.str "B"), .int 2)])
      (.map [(.tagged "!t" (.str "B"), .int 2), (.str "A", .str "1")]) :=
    .map (by simp [DistinctKeys, Node.untagged]) (.swap _ _ _)
  have hloop : Permuted (.map [(.str "var", .str "[]"), (.str "items", .seq [])])
      (.map [(.str "items", .seq []), (.str "var", .str "[]")]) :=
    .map (by simp [DistinctKeys, Node.untagged]) (.swap _ _ _)
  have htask : ElementReordered (.map [(.str "name", .str "n"), (.str "echo", .map [])])
      (.map [(.str "echo", .map []), (.str "name", .str "n")]) :=
    .map (by simp [DistinctKeys, Node.untagged]) (.cons (.same _) (.cons (.same _) .nil))
      (.swap _ _ _)
  refine .seq (.cons (.map (by simp [DistinctKeys, Node.untagged]) ?_ (List.reverse_perm _)) .nil)
  exact .cons (.environment rfl hvariables)
    (.cons (.loop rfl hloop) (.cons (.block rfl (.seq (.cons htask .nil))) .nil))

theorem ofNode_reordered_turned :
    let registry : Registry := ⟨.ofList [("echo", .echo)]⟩
    SequenceReordered orderedNode turnedNode ∧ orderedNode ≠ turnedNode ∧
      ∃ tree, Document.ofNode registry orderedNode = .ok tree ∧
        Document.ofNode registry turnedNode = .ok tree := by
  intro registry
  obtain ⟨tree, htree⟩ : ∃ tree, Document.ofNode registry orderedNode = .ok tree := ⟨_, rfl⟩
  have hother := (ofNode_reordered registry sequenceReordered_turned tree).mp htree
  exact ⟨sequenceReordered_turned, by simp [orderedNode, turnedNode], tree, htree, hother⟩

end Playbook
