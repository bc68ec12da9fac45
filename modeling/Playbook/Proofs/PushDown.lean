import Playbook.Proofs.Grammar.Element
import Playbook.Proofs.Inheritance

/-!
# Pushing variables down

A block may hand its variables to its elements: it is written without any, and each of its elements
with the variables of the block under its own. When every string can be resolved, the new document
does what the old one does; only the strings are asked for at other moments.
-/

namespace Playbook

open Engine Interpreter
open Yaml (Node)
open Grammar (Names LastFilled string?_eq_some)

/-! ## Writing variables further in -/

/-- Changes the entries of a mapping, which may stand under tags. -/
def Yaml.Node.changeEntries (change : List (Node × Node) → List (Node × Node)) : Node → Node
  | .tagged tag content => .tagged tag (content.changeEntries change)
  | .map entries => .map (change entries)
  | node => node

/-- Changes the items of a sequence, which may stand under tags. -/
def Yaml.Node.changeItems (change : Node → Node) : Node → Node
  | .tagged tag content => .tagged tag (content.changeItems change)
  | .seq items => .seq (items.map change)
  | node => node

theorem Yaml.Node.untagged_changeEntries (change : List (Node × Node) → List (Node × Node))
    {entries : List (Node × Node)} : (node : Node) → node.untagged = .map entries →
    (node.changeEntries change).untagged = .map (change entries)
  | .map _, h => by
    obtain rfl := Node.map.inj h
    rfl
  | .tagged _ content, h => untagged_changeEntries change content h
  | .null, h | .bool _, h | .int _, h | .float _, h | .str _, h | .seq _, h => by cases h

theorem Yaml.Node.untagged_changeItems (change : Node → Node) {items : List Node} :
    (node : Node) → node.untagged = .seq items →
    (node.changeItems change).untagged = .seq (items.map change)
  | .seq _, h => by
    obtain rfl := Node.seq.inj h
    rfl
  | .tagged _ content, h => untagged_changeItems change content h
  | .null, h | .bool _, h | .int _, h | .float _, h | .str _, h | .map _, h => by cases h

def isNamed (text : String) (entry : Node × Node) : Bool :=
  entry.1.string? == some text

/-- The last variables among entries, as they are written; `found` stand before the entries. -/
def lastVariables (found : List (Node × Node)) : List (Node × Node) → List (Node × Node)
  | [] => found
  | entry :: rest =>
    lastVariables (if isNamed "environment" entry then entry.2.map?.getD [] else found) rest

def withoutVariables (entries : List (Node × Node)) : List (Node × Node) :=
  entries.filter (!isNamed "environment" ·)

/-- Variables under others: those that the others set as well are left out. -/
def writtenUnder (own inherited : List (Node × Node)) : List (Node × Node) :=
  inherited.filter (fun entry ↦ entry.1.string?.any fun name ↦ !own.any (isNamed name)) ++ own

/-- The element with its own variables over the inherited ones. -/
def withVariables (inherited : List (Node × Node)) (node : Node) : Node :=
  node.changeEntries fun entries ↦ withoutVariables entries ++
    [(.str "environment", .map (writtenUnder (lastVariables [] entries) inherited))]

/-- The block without variables, and each of its elements with them. -/
def pushDown (node : Node) : Node :=
  node.changeEntries fun entries ↦ (withoutVariables entries).map fun entry ↦
    if isNamed "block" entry then
      (entry.1, entry.2.changeItems (withVariables (lastVariables [] entries)))
    else entry

/-- A block hands its variables to its elements. -/
inductive PushesDown : List Node → List Node → Prop where
  | intro {node : Node} {entries : List (Node × Node)} (mapping : node.untagged = .map entries)
      (block : LastFilled "block" entries) : PushesDown [node] [pushDown node]

theorem isNamed_iff {text : String} {entry : Node × Node} :
    isNamed text entry = true ↔ Names text entry := by
  rw [isNamed, beq_iff_eq, string?_eq_some]
  rfl

namespace Document

variable {location : Location} {environment after : Environment}

/-! ## Reading variables -/

theorem parseVariables_cons {entry : Node × Node} {rest : List (Node × Node)} :
    parseVariables location environment (entry :: rest) = .ok after ↔
      ∃ name text, entry.1.string? = some name ∧ entry.2.scalar? = some text ∧
        parseVariables location (environment.insert name text) rest = .ok after := by
  obtain ⟨key, value⟩ := entry
  rw [parseVariables]
  cases hkey : key.string? with
  | none => simp [keyText, hkey]
  | some name =>
    have hname : keyText location key = .ok name := by rw [keyText, hkey]
    rw [hname]
    dsimp only
    cases hvalue : value.scalar? with
    | none => simp [scalarText, hvalue]
    | some text =>
      have htext : scalarText (location.field name) value = .ok text := by rw [scalarText, hvalue]
      rw [htext]
      simp

theorem parseVariables_elsewhere {entries : List (Node × Node)} (place : Location)
    (h : parseVariables location environment entries = .ok after) :
    parseVariables place environment entries = .ok after := by
  induction entries generalizing environment with
  | nil => exact h
  | cons entry rest ih =>
    obtain ⟨name, text, hname, htext, hrest⟩ := parseVariables_cons.mp h
    exact parseVariables_cons.mpr ⟨name, text, hname, htext, ih hrest⟩

/-- Variables are read over others as they are read by themselves. -/
theorem parseVariables_over {entries : List (Node × Node)} (base : Environment)
    (h : parseVariables location environment entries = .ok after) :
    parseVariables location (base.insertMany environment.entries) entries =
      .ok (base.insertMany after.entries) := by
  induction entries generalizing environment with
  | nil =>
    obtain rfl := Except.ok.inj h
    rfl
  | cons entry rest ih =>
    obtain ⟨name, text, hname, htext, hrest⟩ := parseVariables_cons.mp h
    have hinsert : (base.insertMany environment.entries).insert name text =
        base.insertMany (environment.insert name text).entries := by
      refine SortedMap.ext_get? fun key ↦ ?_
      simp only [SortedMap.get?_insert, SortedMap.get?_insertMany_entries]
      split <;> rfl
    refine parseVariables_cons.mpr ⟨name, text, hname, htext, ?_⟩
    rw [hinsert]
    exact ih hrest

/-- A variable that is set has a value. -/
theorem parseVariables_isSome {entries : List (Node × Node)} {key : String}
    (h : parseVariables location environment entries = .ok after)
    (hset : (environment.get? key).isSome ∨ entries.any (isNamed key)) :
    (after.get? key).isSome := by
  induction entries generalizing environment with
  | nil =>
    obtain rfl := Except.ok.inj h
    exact hset.resolve_right nofun
  | cons entry rest ih =>
    obtain ⟨name, text, hname, htext, hrest⟩ := parseVariables_cons.mp h
    refine ih hrest ?_
    rw [SortedMap.get?_insert]
    rw [List.any_cons, Bool.or_eq_true, isNamed, hname, beq_iff_eq, Option.some.injEq] at hset
    split
    · exact .inl rfl
    · next hother =>
      rcases hset with hbefore | hname | hlater
      · exact .inl hbefore
      · exact absurd hname.symm hother
      · exact .inr hlater

/-- Leaving out some variables keeps the values of the others. -/
theorem parseVariables_filter (kept : String → Bool) {entries : List (Node × Node)} :
    ∀ {environment other : Environment},
      (∀ key, kept key = true → other.get? key = environment.get? key) →
      parseVariables location environment entries = .ok after →
      ∃ fewer, parseVariables location other (entries.filter (·.1.string?.any kept)) = .ok fewer ∧
        ∀ key, kept key = true → fewer.get? key = after.get? key := by
  induction entries with
  | nil =>
    intro environment other hsame h
    obtain rfl := Except.ok.inj h
    exact ⟨other, rfl, hsame⟩
  | cons entry rest ih =>
    intro environment other hsame h
    obtain ⟨name, text, hname, htext, hrest⟩ := parseVariables_cons.mp h
    rw [List.filter_cons, hname, Option.any_some]
    split
    · next hkept =>
      have hinsert : ∀ key, kept key = true →
          (other.insert name text).get? key = (environment.insert name text).get? key := by
        intro key hkey
        rw [SortedMap.get?_insert, SortedMap.get?_insert, hsame key hkey]
      obtain ⟨fewer, hfewer, hvalues⟩ := ih hinsert hrest
      exact ⟨fewer, parseVariables_cons.mpr ⟨name, text, hname, htext, hfewer⟩, hvalues⟩
    · next hdropped =>
      refine ih (fun key hkey ↦ ?_) hrest
      rw [SortedMap.get?_insert, hsame key hkey, if_neg]
      rintro rfl
      exact hdropped hkey

theorem parseVariables_append {front back : List (Node × Node)} {between : Environment}
    (hfront : parseVariables location environment front = .ok between)
    (hback : parseVariables location between back = .ok after) :
    parseVariables location environment (front ++ back) = .ok after := by
  induction front generalizing environment with
  | nil =>
    obtain rfl := Except.ok.inj hfront
    exact hback
  | cons entry rest ih =>
    obtain ⟨name, text, hname, htext, hrest⟩ := parseVariables_cons.mp hfront
    exact parseVariables_cons.mpr ⟨name, text, hname, htext, ih hrest⟩

/-- Variables written under others are read as variables with others over them. -/
theorem parseVariables_writtenUnder {own inherited : List (Node × Node)}
    {outer inner : Environment} (houter : parseVariables location ∅ inherited = .ok outer)
    (hinner : parseVariables location ∅ own = .ok inner) :
    parseVariables location ∅ (writtenUnder own inherited) =
      .ok (outer.insertMany inner.entries) := by
  obtain ⟨fewer, hfewer, hvalues⟩ :=
    parseVariables_filter (fun name ↦ !own.any (isNamed name)) (fun _ _ ↦ rfl) houter
  have hover := parseVariables_over fewer hinner
  have hsame : fewer.insertMany inner.entries = outer.insertMany inner.entries := by
    refine SortedMap.ext_get? fun key ↦ ?_
    rw [SortedMap.get?_insertMany_entries, SortedMap.get?_insertMany_entries]
    cases hkey : inner.get? key with
    | some value => rfl
    | none =>
      have hnot : own.any (isNamed key) = false := by
        rw [← Bool.not_eq_true]
        intro hset
        have hsome := parseVariables_isSome hinner (.inr hset)
        rw [hkey] at hsome
        cases hsome
      rw [hvalues key (by rw [hnot]; rfl)]
  rw [hsame] at hover
  exact parseVariables_append hfewer hover

end Document

namespace Outline

variable {registry : Registry} {location : Location} {outline after : Outline}

/-! ## Reading elements -/

def withEnvironment (outline : Outline) (environment : Environment) : Outline :=
  outline.withHeading { outline.heading with environment }

theorem readEntry_names_environment {entry : Node × Node} (h : Names "environment" entry)
    (hread : readEntry registry location entry outline = .ok after) :
    ∃ written environment, entry.2.map? = some written ∧
      Document.parseVariables [] ∅ written = .ok environment ∧
      after = outline.withEnvironment environment := by
  have hfield : Names ControlField.environment.text entry := h
  obtain ⟨heading, hheading, rfl⟩ := readEntry_names_field (by decide) hfield hread
  obtain ⟨environment, hparse, rfl⟩ := map_eq_ok.mp hheading
  unfold Document.parseEnvironment at hparse
  cases hwritten : entry.2.map? with
  | none => simp [hwritten] at hparse
  | some written =>
    simp only [hwritten] at hparse
    exact ⟨written, environment, rfl, Document.parseVariables_elsewhere [] hparse, rfl⟩

theorem readEntry_environment (registry : Registry) {written : List (Node × Node)}
    {environment : Environment} (h : Document.parseVariables [] ∅ written = .ok environment)
    (outline : Outline) :
    readEntry registry [] (.str "environment", .map written) outline =
      .ok (outline.withEnvironment environment) := by
  have hvalue : Document.parseEnvironment (Location.field [] "environment") (.map written) =
      .ok environment := Document.parseVariables_elsewhere _ h
  have hread : readField (Location.field [] ControlField.environment.text) .environment
      (.map written) outline.heading = .ok { outline.heading with environment } :=
    map_eq_ok.mpr ⟨environment, hvalue, rfl⟩
  exact readEntry_eq_ok.mpr ⟨_, rfl, .field (by decide) hread⟩

theorem readField_environment (location : Location) {field : ControlField}
    (h : field ≠ .environment) (node : Node) (heading : Heading) (environment : Environment) :
    readField location field node { heading with environment } =
      (readField location field node heading).map ({ · with environment }) := by
  cases field
  case environment => exact absurd rfl h
  case block => rfl
  all_goals simp only [readField, map_map]

/-- Other entries keep the variables. -/
theorem readEntry_keeps_environment {entry : Node × Node} (h : ¬ Names "environment" entry)
    (hread : readEntry registry location entry outline = .ok after) :
    after.heading.environment = outline.heading.environment := by
  obtain ⟨key, value⟩ := entry
  obtain ⟨text, hkey, hreads⟩ := readEntry_eq_ok.mp hread
  cases hreads with
  | block read => rfl
  | @field field heading other read =>
    have hne : field ≠ .environment := by
      rintro rfl
      exact h (string?_eq_some.mp hkey)
    have hsame : readField (location.field field.text) field value outline.heading =
        (readField (location.field field.text) field value outline.heading).map
          ({ · with environment := outline.heading.environment }) :=
      readField_environment _ hne value outline.heading outline.heading.environment
    rw [read] at hsame
    have heq : heading = { heading with environment := outline.heading.environment } :=
      Except.ok.inj hsame
    have hkeeps := congrArg Heading.environment heq
    exact hkeeps
  | task free registered first read => rfl

/-- The variables of an element are those of its last `environment`. -/
theorem readEntries_variables {entries : List (Node × Node)} :
    ∀ {outline : Outline} {found : List (Node × Node)},
      Document.parseVariables [] ∅ found = .ok outline.heading.environment →
      readEntries registry location entries outline = .ok after →
      Document.parseVariables [] ∅ (lastVariables found entries) =
        .ok after.heading.environment := by
  induction entries with
  | nil =>
    intro outline found hfound hread
    obtain rfl := Except.ok.inj hread
    exact hfound
  | cons entry rest ih =>
    intro outline found hfound hread
    obtain ⟨between, hentry, hrest⟩ := readEntries_cons.mp hread
    refine ih ?_ hrest
    split
    · next hnamed =>
      obtain ⟨written, environment, hwritten, hparse, rfl⟩ :=
        readEntry_names_environment (isNamed_iff.mp hnamed) hentry
      rw [hwritten]
      exact hparse
    · next hnamed =>
      rw [readEntry_keeps_environment (fun h ↦ hnamed (isNamed_iff.mpr h)) hentry]
      exact hfound

/-! ## Leaving out variables -/

/-- The same element without variables, and with the elements inside it changed. -/
def emptied (change : Outline → Outline) (outline : Outline) : Outline :=
  .element { outline.heading with environment := ∅ } (outline.replaced.map change)
    (outline.children.map change)

variable {change : Outline → Outline}

theorem validate_emptied (change : Outline → Outline) (outline : Outline) :
    (outline.emptied change).validate = outline.validate := by
  have hempty : (outline.emptied change).children.isEmpty = outline.children.isEmpty :=
    List.isEmpty_map
  rw [validate, validate, hempty]
  rfl

theorem withBlock_emptied (outline : Outline) (block : List Outline) :
    (outline.withBlock block).emptied change =
      (outline.emptied change).withBlock (block.map change) := by
  have hreplaced : (outline.replaced ++ outline.children).map change =
      outline.replaced.map change ++ outline.children.map change := List.map_append
  change Outline.element _ ((outline.replaced ++ outline.children).map change) _ = _
  rw [hreplaced]
  rfl

theorem emptied_id (outline : Outline) : outline.emptied id = outline.withEnvironment ∅ := by
  rw [emptied, List.map_id, List.map_id]
  rfl

theorem readEntry_emptied {entry : Node × Node} (henvironment : ¬ Names "environment" entry)
    (hblock : ¬ Names "block" entry)
    (hread : readEntry registry location entry outline = .ok after) :
    readEntry registry location entry (outline.emptied change) = .ok (after.emptied change) := by
  obtain ⟨key, value⟩ := entry
  obtain ⟨text, hkey, hreads⟩ := readEntry_eq_ok.mp hread
  cases hreads with
  | block read => exact absurd (string?_eq_some.mp hkey) hblock
  | @field field heading hfield read =>
    have hne : field ≠ .environment := by
      rintro rfl
      exact henvironment (string?_eq_some.mp hkey)
    have hread' : readField (location.field field.text) field value
        (outline.emptied change).heading = .ok { heading with environment := ∅ } := by
      have hempty := readField_environment (location.field field.text) hne value
        outline.heading ∅
      rw [read] at hempty
      exact hempty
    exact readEntry_eq_ok.mpr ⟨_, hkey, .field hfield hread'⟩
  | task free registered first read =>
    exact readEntry_eq_ok.mpr ⟨_, hkey, .task free registered first read⟩

/-- Entries that are no variables may be read without these, when blocks are rewritten so that the
elements inside change. -/
theorem readEntries_emptied {rewrite : Node × Node → Node × Node}
    (hother : ∀ entry, ¬ Names "block" entry → rewrite entry = entry)
    (hblock : ∀ entry, Names "block" entry → ∀ {outline next : Outline},
      readEntry registry [] entry outline = .ok next →
      readEntry registry [] (rewrite entry) (outline.emptied change) = .ok (next.emptied change))
    {entries : List (Node × Node)} : ∀ {outline : Outline},
      readEntries registry [] entries outline = .ok after →
      readEntries registry [] ((withoutVariables entries).map rewrite) (outline.emptied change) =
        .ok (after.emptied change) := by
  induction entries with
  | nil =>
    intro outline hread
    obtain rfl := Except.ok.inj hread
    rfl
  | cons entry rest ih =>
    intro outline hread
    obtain ⟨between, hentry, hrest⟩ := readEntries_cons.mp hread
    have hlater := ih hrest
    rw [withoutVariables, List.filter_cons]
    by_cases hnamed : Names "environment" entry
    · obtain ⟨written, environment, -, -, rfl⟩ := readEntry_names_environment hnamed hentry
      rw [isNamed_iff.mpr hnamed]
      exact hlater
    · have hkept : (!isNamed "environment" entry) = true := by
        rw [Bool.not_eq_true', ← Bool.not_eq_true, isNamed_iff]
        exact hnamed
      have hstep : readEntry registry [] (rewrite entry) (outline.emptied change) =
          .ok (between.emptied change) := by
        by_cases hentryBlock : Names "block" entry
        · exact hblock entry hentryBlock hentry
        · rw [hother entry hentryBlock]
          exact readEntry_emptied hnamed hentryBlock hentry
      rw [hkept, if_pos rfl, List.map_cons]
      exact readEntries_cons.mpr ⟨_, hstep, hlater⟩

/-! ## Elements with inherited variables -/

theorem readEntries_withVariables {inherited : List (Node × Node)} {around : Environment}
    (haround : Document.parseVariables [] ∅ inherited = .ok around)
    {entries : List (Node × Node)} (h : readEntries registry [] entries blank = .ok outline) :
    readEntries registry [] (withoutVariables entries ++
      [(.str "environment", .map (writtenUnder (lastVariables [] entries) inherited))]) blank =
      .ok (outline.under around) := by
  have hblock : ∀ entry, Names "block" entry → ∀ {outline next : Outline},
      readEntry registry [] entry outline = .ok next →
      readEntry registry [] entry (outline.emptied id) = .ok (next.emptied id) := by
    intro entry hnames outline next hread
    obtain ⟨items, -, hitems, -⟩ := readEntry_names_block hnames hread
    obtain ⟨block, hitemsRead, rfl⟩ := (readEntry_block hnames hitems).mp hread
    refine (readEntry_block hnames hitems).mpr ⟨block, hitemsRead, ?_⟩
    rw [withBlock_emptied, List.map_id]
  have hrest := readEntries_emptied (fun entry _ ↦ (rfl : id entry = entry)) hblock h
  rw [List.map_id, emptied_id, emptied_id] at hrest
  have hown : Document.parseVariables [] ∅ (lastVariables [] entries) =
      .ok outline.heading.environment := readEntries_variables rfl h
  have hlast := readEntry_environment registry
    (Document.parseVariables_writtenUnder haround hown) (outline.withEnvironment ∅)
  refine readEntries_append.mpr ⟨_, hrest, readEntries_cons.mpr ⟨_, hlast, ?_⟩⟩
  cases outline
  rfl

/-- Elements with inherited variables are read as the elements under these variables. -/
theorem readItems_withVariables {inherited : List (Node × Node)} {around : Environment}
    (haround : Document.parseVariables [] ∅ inherited = .ok around) {nodes : List Node} :
    ∀ {outlines : List Outline}, readItems registry [] 0 nodes = .ok outlines →
      readItems registry [] 0 (nodes.map (withVariables inherited)) =
        .ok (outlines.map (·.under around)) := by
  induction nodes with
  | nil =>
    intro outlines h
    obtain rfl := Except.ok.inj h
    rfl
  | cons node rest ih =>
    intro outlines h
    have helement := (Grammar.readItems_ok_iff [] 0 (node :: rest)).mp ⟨_, h⟩ node
      List.mem_cons_self
    obtain ⟨mapping, -, -, -⟩ := helement
    have hsplit : readItems registry [] 0 ([node] ++ rest) = .ok outlines := h
    obtain ⟨first, others, hfirst, hothers, rfl⟩ := readItems_append_eq_ok.mp hsplit
    obtain ⟨outline, rfl, hentries, hvalid⟩ := (readItems_singleton mapping).mp hfirst
    have hmapping := Node.untagged_changeEntries (fun entries ↦ withoutVariables entries ++
      [(.str "environment", .map (writtenUnder (lastVariables [] entries) inherited))]) node mapping
    have hvalid' : (outline.under around).validate = .ok () := by
      cases outline
      exact hvalid
    have hnode : readItems registry [] 0 [withVariables inherited node] =
        .ok [outline.under around] := (readItems_singleton hmapping).mpr
      ⟨_, rfl, readEntries_withVariables haround hentries, hvalid'⟩
    exact readItems_append_eq_ok.mpr ⟨_, _, hnode, ih hothers, rfl⟩

/-- A block that was pushed down is read without variables, and its elements under them. -/
theorem readItems_pushDown {node : Node} {entries : List (Node × Node)}
    (mapping : node.untagged = .map entries) {outlines : List Outline}
    (h : readItems registry [] 0 [node] = .ok outlines) :
    ∃ outline, outlines = [outline] ∧
      readEntries registry [] entries blank = .ok outline ∧
      readItems registry [] 0 [pushDown node] =
        .ok [outline.emptied (·.under outline.heading.environment)] := by
  obtain ⟨outline, rfl, hentries, hvalid⟩ := (readItems_singleton mapping).mp h
  refine ⟨outline, rfl, hentries, ?_⟩
  have hown : Document.parseVariables [] ∅ (lastVariables [] entries) =
      .ok outline.heading.environment := readEntries_variables rfl hentries
  -- Blocks that are replaced later are rewritten like the last one.
  let rewrite (entry : Node × Node) : Node × Node :=
    if isNamed "block" entry then
      (entry.1, entry.2.changeItems (withVariables (lastVariables [] entries)))
    else entry
  have hother : ∀ entry, ¬ Names "block" entry → rewrite entry = entry := fun entry hnot ↦
    if_neg fun hnamed ↦ hnot (isNamed_iff.mp hnamed)
  have hblock : ∀ entry, Names "block" entry → ∀ {before next : Outline},
      readEntry registry [] entry before = .ok next →
      readEntry registry [] (rewrite entry)
        (before.emptied (·.under outline.heading.environment)) =
          .ok (next.emptied (·.under outline.heading.environment)) := by
    intro entry hnames before next hread
    obtain ⟨items, -, hitems, -⟩ := readEntry_names_block hnames hread
    obtain ⟨block, hitemsRead, rfl⟩ := (readEntry_block hnames hitems).mp hread
    have hrewrite : rewrite entry =
        (entry.1, entry.2.changeItems (withVariables (lastVariables [] entries))) :=
      if_pos (isNamed_iff.mpr hnames)
    rw [hrewrite, withBlock_emptied]
    have hnames' : Names "block"
        (entry.1, entry.2.changeItems (withVariables (lastVariables [] entries))) := hnames
    exact (readEntry_block hnames' (Node.untagged_changeItems _ entry.2 hitems)).mpr
      ⟨_, readItems_withVariables hown hitemsRead, rfl⟩
  have hread := readEntries_emptied hother hblock hentries
  have hvalid' := validate_emptied (·.under outline.heading.environment) outline
  rw [hvalid] at hvalid'
  exact (readItems_singleton (Node.untagged_changeEntries _ node mapping)).mpr
    ⟨_, rfl, hread, hvalid'⟩

end Outline

open Outline

/-- The variables of a block may stand in its elements instead, under what these set themselves,
wherever the block stands in a document and whatever else it says. The document can still be read;
when the resolver never fails it has the same result from every session, and leaves the same facts,
files and steps of tasks with the same variables. -/
theorem executeNode_pushDown (context : Context) (htotal : context.resolver.Total)
    {nodes nodes' : List Node} (h : Rewrites PushesDown nodes nodes')
    (hread : ∃ tree, Document.ofNode context.registry (.seq nodes) = .ok tree) :
    (∃ tree, Document.ofNode context.registry (.seq nodes') = .ok tree) ∧
    ∀ s, ((executeNode context (.seq nodes)).run s).1 =
        ((executeNode context (.seq nodes')).run s).1 ∧
      (((executeNode context (.seq nodes)).run s).2.withCalls []).unspanned =
        (((executeNode context (.seq nodes')).run s).2.withCalls []).unspanned := by
  have hstep : ∀ opened part part' outlines, PushesDown part part' →
      readItems context.registry [] 0 part = .ok outlines →
      ∃ outlines', readItems context.registry [] 0 part' = .ok outlines' ∧
        OutlinesAlike context .unasked opened opened outlines outlines' := by
    rintro opened _ _ outlines ⟨mapping, hfilled⟩ hpart
    obtain ⟨outline, rfl, hentries, hpushed⟩ := readItems_pushDown mapping hpart
    have hchildren : outline.children ≠ [] := by
      have hblank : (blank.children ≠ []) = False := by simp [blank, Outline.children]
      rw [(Grammar.readEntries_content hentries).2.2, hblank, Grammar.filledAfter_false]
      exact hfilled
    obtain ⟨heading, replaced, children⟩ := outline
    exact ⟨_, hpushed, .of_under htotal heading replaced _ hchildren⟩
  obtain ⟨hread', halike⟩ := h.executeNode_alike hstep hread
  exact ⟨hread', Alike.same not_false Likeness.like_unasked halike⟩

/-- A block with a guard that sets `A` and `B` around a task that sets `B` itself. -/
def settingNode : Node :=
  .map [(.str "when", .str "true"),
    (.str "environment", .map [(.str "A", .str "1"), (.str "B", .str "2")]),
    (.str "block", .seq [.map [(.str "environment", .map [(.str "B", .str "3")]),
      (.str "set_fact", .map [(.str "a", .str "1")])]])]

example : pushDown settingNode = .map [(.str "when", .str "true"),
    (.str "block", .seq [.map [(.str "set_fact", .map [(.str "a", .str "1")]),
      (.str "environment", .map [(.str "A", .str "1"), (.str "B", .str "3")])]])] :=
  rfl

theorem executeNode_pushDown_setting :
    ∃ registry tree, Registry.ofKinds TaskKind.standard = .ok registry ∧
      Document.ofNode registry (.seq [loopNode [settingNode]]) = .ok tree ∧
      Resolver.Total .identity ∧
      Rewrites PushesDown [loopNode [settingNode]] [loopNode [pushDown settingNode]] ∧
      ((∃ tree, Document.ofNode registry (.seq [loopNode [pushDown settingNode]]) = .ok tree) ∧
        ∀ s,
          ((executeNode ⟨.standard, registry, .identity, ∅⟩
              (.seq [loopNode [settingNode]])).run s).1 =
            ((executeNode ⟨.standard, registry, .identity, ∅⟩
              (.seq [loopNode [pushDown settingNode]])).run s).1 ∧
          (((executeNode ⟨.standard, registry, .identity, ∅⟩
              (.seq [loopNode [settingNode]])).run s).2.withCalls []).unspanned =
            (((executeNode ⟨.standard, registry, .identity, ∅⟩
              (.seq [loopNode [pushDown settingNode]])).run s).2.withCalls []).unspanned) := by
  have hread : ∃ registry tree, Registry.ofKinds TaskKind.standard = .ok registry ∧
      Document.ofNode registry (.seq [loopNode [settingNode]]) = .ok tree := ⟨_, _, rfl, rfl⟩
  have htotal : Resolver.Total .identity := fun text _ ↦ ⟨text, rfl⟩
  have hpushes : PushesDown [settingNode] [pushDown settingNode] :=
    PushesDown.intro rfl (.later (.later (.here rfl rfl nofun)))
  have hrewrites : Rewrites PushesDown [loopNode [settingNode]]
      [loopNode [pushDown settingNode]] :=
    .inside [] [] [_] [] rfl rfl rfl rfl rfl (.here [] [] hpushes)
  obtain ⟨registry, tree, hregistry, htree⟩ := hread
  exact ⟨registry, tree, hregistry, htree, htotal, hrewrites,
    executeNode_pushDown ⟨.standard, registry, .identity, ∅⟩ htotal hrewrites ⟨tree, htree⟩⟩

end Playbook
