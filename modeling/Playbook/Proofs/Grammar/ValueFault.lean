import Playbook.Proofs.Grammar.Fault
import Playbook.Proofs.Traversal

/-!
# Faults of values

The readers of the values of an element fail exactly where there is a fault, with the error that the
fault is about.
-/

namespace Playbook.Grammar

open Yaml (Node)
open Document

variable {registry : Registry} {role : Role} {node : Node} {location : Location}
  {error : ParseError}

/-! ## Values without parts -/

theorem scalarText_error_iff (registry : Registry) :
    scalarText location node = .error error ↔ Finds registry .text node location error := by
  have hfits : Fits Role.text.shape node ↔ ∃ text, scalarText location node = .ok text :=
    (scalarText_ok_iff location node).symm
  rw [finds_shape_iff (.inl rfl), hfits]
  unfold scalarText
  cases node.scalar? <;> simp [unexpected, Role.refusal, Role.shape, eq_comm]

theorem parseIgnoreErrors_error_iff (registry : Registry) :
    parseIgnoreErrors location node = .error error ↔ Finds registry .flag node location error := by
  have hfits : Fits Role.flag.shape node ↔ ∃ value, parseIgnoreErrors location node = .ok value :=
    (parseIgnoreErrors_ok_iff location node).symm
  rw [finds_shape_iff (.inr (.inl rfl)), hfits]
  unfold parseIgnoreErrors
  cases node.bool? <;> simp [unexpected, Role.refusal, Role.shape, eq_comm]

theorem keyText_error_iff {key : Node} : keyText location key = .error error ↔
    ¬ Fits .stringKey key ∧ error = .unexpectedNode location .stringKey key.kind := by
  have hfits : Fits .stringKey key ↔ ∃ text, keyText location key = .ok text := by
    simp only [Fits, ← string?_eq_some, Outline.keyText_eq_ok]
  rw [hfits]
  unfold keyText
  cases key.string? <;> simp [unexpected, eq_comm]

/-- Under a key that is no text nothing is read. -/
theorem keyText_bind_error_iff {α : Type} {entry : Node × Node}
    {read : String → Except ParseError α} : (keyText location entry.1).bind read = .error error ↔
      keyText location entry.1 = .error error ∨
        ∃ key, Names key entry ∧ read key = .error error := by
  obtain ⟨key, value⟩ := entry
  cases hkey : keyText location key with
  | error fault => simp [Except.bind, not_names_of_keyText hkey]
  | ok text =>
    have hnames : Names text (key, value) := keyText_ok_iff.mp hkey
    constructor
    · exact fun h ↦ .inr ⟨text, hnames, h⟩
    · rintro (h | ⟨other, hother, h⟩)
      · cases h
      · obtain rfl := hother.text_eq hnames
        exact h

/-! ## Guards -/

theorem finds_guards_iff : Finds registry .guards node location error ↔
    (¬ Role.guards.Admits node ∧ error = Role.guards.refusal location node) ∨
    ∃ before condition after, node = .seq (before ++ condition :: after) ∧
      (∀ found ∈ before, IsScalar found) ∧
      Finds registry .text condition (location.item before.length) error := by
  rw [finds_iff]
  constructor
  · rintro (hfault | ⟨step, part, inner, hchild, hfinds⟩)
    · cases hfault with
      | shape misfit => exact .inl ⟨misfit, rfl⟩
      | entry _ earlier => exact earlier.elim
      | rule _ sound => exact sound.elim
    · cases hchild with
      | condition sequence earlier => exact .inr ⟨_, _, _, sequence, earlier, hfinds⟩
      | value _ earlier => exact earlier.elim
  · rintro (⟨hmisfit, rfl⟩ | ⟨before, condition, after, hnode, hbefore, hfinds⟩)
    · exact .inl (.shape hmisfit)
    · exact .inr ⟨_, _, _, .condition hnode hbefore, hfinds⟩

theorem parseConditions_error_iff {position : Nat} {nodes : List Node} :
    parseConditions location position nodes = .error error ↔
      ∃ before condition after, nodes = before ++ condition :: after ∧
        (∀ found ∈ before, IsScalar found) ∧
        scalarText (location.item (position + before.length)) condition = .error error := by
  refine exists_first_error_at IsScalar (parseConditions location)
    (fun position node ↦ scalarText (location.item position) node) (fun _ _ ↦ nofun) ?_
    (fun position node ↦ scalarText_ok_iff (location.item position) node) nodes position error
  intro position node rest e
  rw [parseConditions]
  cases scalarText (location.item position) node <;> simp [map_eq_error]

theorem parseGuards_error_iff (registry : Registry) :
    parseGuards location node = .error error ↔ Finds registry .guards node location error := by
  rw [finds_guards_iff]
  cases node
  case seq conditions =>
    have hadmits : Role.guards.Admits (.seq conditions) := .conditions conditions
    rw [parseGuards, parseConditions_error_iff]
    simp only [hadmits, not_true_eq_false, false_and, false_or, Node.seq.injEq, Nat.zero_add,
      scalarText_error_iff registry]
  all_goals
    unfold parseGuards
    rw [map_eq_error, scalarText_error_iff registry, finds_shape_iff (.inl rfl)]
    constructor
    · rintro ⟨hmisfit, rfl⟩
      refine .inl ⟨fun hadmits ↦ ?_, rfl⟩
      cases hadmits with
      | fits fits => exact hmisfit fits
    · rintro (⟨hmisfit, rfl⟩ | ⟨before, condition, after, hnode, -⟩)
      · exact ⟨fun hfits ↦ hmisfit (.fits hfits), rfl⟩
      · cases hnode

/-! ## Environments -/

theorem not_fits_of_map? (h : node.map? = none) : ¬ Fits .mapping node := by
  rintro ⟨entries, hentries⟩
  cases h.symm.trans (map?_eq_some.mpr hentries)

/-- A variable fails for its name or for its value. -/
theorem entryFails_environment_iff {before : List (Node × Node)} {entry : Node × Node} :
    EntryFails registry location .environment before entry error ↔
      keyText location entry.1 = .error error ∨
        ∃ name, Names name entry ∧ scalarText (location.field name) entry.2 = .error error := by
  simp only [keyText_error_iff, scalarText_error_iff registry]
  constructor
  · rintro (hfault | ⟨name, part, hnames, hopens, hfinds⟩)
    · cases hfault with
      | key misfit => exact .inl ⟨misfit, rfl⟩
      | unknown _ unknown => exact absurd trivial unknown
    · cases hopens with
      | name => exact .inr ⟨name, hnames, hfinds⟩
  · rintro (⟨hmisfit, rfl⟩ | ⟨name, hnames, hfinds⟩)
    · exact .inl (.key hmisfit)
    · exact .inr ⟨name, .text, hnames, .name name, hfinds⟩

/-- Reads one variable on top of others. -/
def readVariable (location : Location) (entry : Node × Node) (environment : Environment) :
    Except ParseError Environment :=
  (keyText location entry.1).bind fun name ↦
    (scalarText (location.field name) entry.2).map (environment.insert name)

theorem parseVariables_error_iff (registry : Registry) {environment : Environment}
    {entries : List (Node × Node)} :
    parseVariables location environment entries = .error error ↔
      ∃ before entry after, entries = before ++ entry :: after ∧
        Role.environment.Accepts registry before ∧
        EntryFails registry location .environment before entry error := by
  refine error_iff_first (fun entries environment ↦ parseVariables location environment entries)
    (readVariable location) (fun _ ↦ rfl) ?_ entries environment error
    (parseVariables_ok_iff location environment) fun before entry met _ _ ↦ ?_
  · rintro ⟨key, value⟩ rest environment
    rw [parseVariables, readVariable]
    cases keyText location key with
    | error fault => rfl
    | ok name =>
      dsimp only [Except.bind]
      cases scalarText (location.field name) value <;> rfl
  · rw [readVariable, keyText_bind_error_iff, entryFails_environment_iff]
    simp only [map_eq_error]

theorem parseEnvironment_error_iff (registry : Registry) :
    parseEnvironment location node = .error error ↔
      Finds registry .environment node location error := by
  unfold parseEnvironment
  cases hmap : node.map? with
  | none =>
    rw [finds_misfit_iff .environment (by simp) (not_fits_of_map? hmap)]
    simp [unexpected, Role.refusal, Role.shape, eq_comm]
  | some entries =>
    rw [finds_entries_iff (map?_eq_some.mp hmap) (.inr (.inl rfl)),
      or_iff_left fun h ↦ nomatch h.2]
    exact parseVariables_error_iff registry

/-! ## Loops -/

theorem parseLoopItems_error_iff (registry : Registry) :
    parseLoopItems location node = .error error ↔
      Finds registry .items node (location.field "items") error ∨
        ∃ nodes fault, node.untagged = .seq nodes ∧ Node.itemsToJson nodes = .error fault ∧
          error = .invalidField location "items" fault.message := by
  rw [finds_shape_iff (.inr (.inr rfl))]
  simp only [Role.shape, Fits, ← seq?_eq_some]
  unfold parseLoopItems
  cases node.seq? with
  | none => simp [unexpected, Role.refusal, Role.shape, eq_comm]
  | some nodes =>
    dsimp only
    cases hread : Node.itemsToJson nodes <;> simp [hread, eq_comm]

/-- Reads the value under one key of a loop on top of others. -/
def readPart (location : Location) (key : String) (value : Node)
    (parts : Option String × Option (List Json)) :
    Except ParseError (Option String × Option (List Json)) :=
  if key = "var" then
    (scalarText (location.field key) value).map fun template ↦ (some template, parts.2)
  else if key = "items" then
    (parseLoopItems location value).map fun items ↦ (parts.1, some items)
  else .error (.unknownField location key)

theorem readPart_error_iff {key : String} {parts : Option String × Option (List Json)} :
    readPart location key node parts = .error error ↔
      (key = "var" ∧ scalarText (location.field "var") node = .error error) ∨
      (key = "items" ∧ parseLoopItems location node = .error error) ∨
      (¬ (key = "var" ∨ key = "items") ∧ error = .unknownField location key) := by
  unfold readPart
  by_cases hvar : key = "var"
  · subst hvar
    simp [map_eq_error]
  · by_cases hitems : key = "items"
    · subst hitems
      simp [map_eq_error]
    · simp [hvar, hitems, eq_comm]

/-- An entry of a loop fails for its key or for its value. -/
theorem entryFails_loop_iff {before : List (Node × Node)} {entry : Node × Node}
    {parts : Option String × Option (List Json)} :
    EntryFails registry location .loop before entry error ↔
      (keyText location entry.1).bind (readPart location · entry.2 parts) = .error error := by
  rw [keyText_bind_error_iff]
  simp only [keyText_error_iff, readPart_error_iff, scalarText_error_iff registry,
    parseLoopItems_error_iff registry]
  constructor
  · rintro (hfault | ⟨key, part, hnames, hopens, hfinds⟩)
    · cases hfault with
      | key misfit => exact .inl ⟨misfit, rfl⟩
      | unknown names unknown => exact .inr ⟨_, names, .inr (.inr ⟨unknown, rfl⟩)⟩
      | items names sequence strange =>
        exact .inr ⟨_, names, .inr (.inl ⟨rfl, .inr ⟨_, _, sequence, strange, rfl⟩⟩)⟩
    · refine .inr ⟨key, hnames, ?_⟩
      cases hopens with
      | template => exact .inl ⟨rfl, hfinds⟩
      | items => exact .inr (.inl ⟨rfl, .inl hfinds⟩)
  · rintro (⟨hmisfit, rfl⟩ | ⟨key, hnames, ⟨rfl, hfinds⟩ | ⟨rfl, hitems⟩ | ⟨hunknown, rfl⟩⟩)
    · exact .inl (.key hmisfit)
    · exact .inr ⟨_, _, hnames, .template, hfinds⟩
    · rcases hitems with hfinds | ⟨nodes, fault, hsequence, hstrange, rfl⟩
      · exact .inr ⟨_, _, hnames, .items, hfinds⟩
      · exact .inl (.items hnames hsequence hstrange)
    · exact .inl (.unknown hnames hunknown)

theorem parseLoopParts_error_iff (registry : Registry) {entries : List (Node × Node)} :
    parseLoopParts location none none entries = .error error ↔
      ∃ before entry after, entries = before ++ entry :: after ∧
        Role.loop.Accepts registry before ∧
        EntryFails registry location .loop before entry error := by
  refine error_iff_first (fun entries parts ↦ parseLoopParts location parts.1 parts.2 entries)
    (fun entry parts ↦ (keyText location entry.1).bind (readPart location · entry.2 parts))
    (fun _ ↦ rfl) ?_ entries (none, none) error (parseLoopParts_ok_iff location none none)
    fun before entry met _ _ ↦ entryFails_loop_iff.symm
  rintro ⟨key, value⟩ rest ⟨var, items⟩
  rw [parseLoopParts]
  cases keyText location key with
  | error fault => rfl
  | ok text =>
    dsimp only [Except.bind, readPart]
    split
    · cases scalarText (location.field text) value <;> rfl
    · split
      · cases parseLoopItems location value <;> rfl
      · rfl

theorem ofParts_error_iff {var : Option String} {items : Option (List Json)}
    {fault : LoopSpec.Fault} : LoopSpec.ofParts var items = .error fault ↔
      (fault = .both ∧ var.isSome ∧ IsFilled items) ∨
        (fault = .neither ∧ ¬ var.isSome ∧ ¬ IsFilled items) := by
  rw [isFilled_iff]
  unfold LoopSpec.ofParts
  cases var <;> cases items.filter (!·.isEmpty) <;> simp [eq_comm]

theorem breaksSource_iff {entries : List (Node × Node)} {var : Option String}
    {items : Option (List Json)} {fault : LoopSpec.Fault}
    (h : parseLoopParts location none none entries = .ok (var, items)) :
    BreaksSource entries fault ↔ LoopSpec.ofParts var items = .error fault := by
  obtain ⟨hvar, hfilled⟩ := parseLoopParts_eq_ok h
  have hnone : IsFilled none ↔ False := by simp [IsFilled]
  rw [hnone, filledAfter_false] at hfilled
  simp only [Option.isSome_none, Bool.false_eq_true, false_or] at hvar
  rw [ofParts_error_iff, hvar, hfilled]
  constructor
  · intro hbreaks
    cases hbreaks with
    | both var filled => exact .inl ⟨rfl, var, filled⟩
    | neither var unfilled =>
      refine .inr ⟨rfl, ?_, unfilled⟩
      rintro ⟨entry, hmem, hnames⟩
      exact var entry hmem hnames
  · rintro (⟨rfl, hsome, hlast⟩ | ⟨rfl, hnot, hlast⟩)
    · exact .both hsome hlast
    · exact .neither (fun entry hmem hnames ↦ hnot ⟨entry, hmem, hnames⟩) hlast

theorem ruleFault_loop_iff {entries : List (Node × Node)} :
    RuleFault registry location entries .loop error ↔
      ∃ fault, BreaksSource entries fault ∧ error = .invalidElement location fault.message := by
  constructor
  · intro h
    cases h with
    | source breaks => exact ⟨_, breaks, rfl⟩
  · rintro ⟨fault, hbreaks, rfl⟩
    exact .source hbreaks

theorem parseLoop_error_iff (registry : Registry) :
    parseLoop location node = .error error ↔ Finds registry .loop node location error := by
  unfold parseLoop
  cases hmap : node.map? with
  | none =>
    rw [finds_misfit_iff .loop (by simp) (not_fits_of_map? hmap)]
    simp [unexpected, Role.refusal, Role.shape, eq_comm]
  | some entries =>
    have hsound : Role.loop.Accepts registry entries ↔
        ∃ parts, parseLoopParts location none none entries = .ok parts :=
      (parseLoopParts_ok_iff location none none entries).symm
    rw [finds_entries_iff (map?_eq_some.mp hmap) (.inr (.inr rfl)),
      ← parseLoopParts_error_iff registry, hsound, ruleFault_loop_iff]
    cases hparts : parseLoopParts location none none entries with
    | error fault => simp [hparts]
    | ok parts =>
      obtain ⟨var, items⟩ := parts
      simp only [breaksSource_iff hparts, hparts]
      cases LoopSpec.ofParts var items <;> simp [eq_comm]

/-! ## Tasks and fields -/

theorem finds_config_iff {kind : String} (mapping : Fits .mapping node) :
    Finds registry (.config kind) node location error ↔ ∃ fault, node.toJson = .error fault ∧
      error = .invalidField location kind fault.message := by
  rw [finds_iff]
  constructor
  · rintro (hfault | ⟨step, part, inner, hchild, -⟩)
    · cases hfault with
      | shape misfit => exact absurd (.fits mapping) misfit
      | entry _ earlier => exact earlier.elim
      | rule _ sound => exact sound.elim
      | config _ strange => exact ⟨_, strange, rfl⟩
    · cases hchild with
      | value _ earlier => exact earlier.elim
  · rintro ⟨fault, hstrange, rfl⟩
    exact .inl (.config mapping hstrange)

theorem parseTask_error_iff (registry : Registry) {kind : String} :
    parseTask location kind node = .error error ↔
      Finds registry (.config kind) node location error := by
  unfold parseTask
  cases hmap : node.map? with
  | none =>
    rw [finds_misfit_iff (.config kind) (by simp) (not_fits_of_map? hmap)]
    simp [Role.refusal, eq_comm]
  | some entries =>
    have mapping := map?_eq_some.mp hmap
    rw [finds_config_iff ⟨entries, mapping⟩]
    cases hjson : node.toJson with
    | error fault => simp [eq_comm]
    | ok value =>
      obtain ⟨fields, rfl⟩ := toJson_obj mapping hjson
      simp

theorem readField_error_iff (registry : Registry) {field : ControlField} (hfield : field ≠ .block)
    (heading : Heading) : Outline.readField location field node heading = .error error ↔
      Finds registry (.ofField field) node location error := by
  cases field
  case block => exact absurd rfl hfield
  case name | register =>
    rw [Outline.readField, map_eq_error, scalarText_error_iff registry]
    rfl
  case guards =>
    rw [Outline.readField, map_eq_error, parseGuards_error_iff registry]
    rfl
  case environment =>
    rw [Outline.readField, map_eq_error, parseEnvironment_error_iff registry]
    rfl
  case loop =>
    rw [Outline.readField, map_eq_error, parseLoop_error_iff registry]
    rfl
  case ignoreErrors =>
    rw [Outline.readField, map_eq_error, parseIgnoreErrors_error_iff registry]
    rfl

end Playbook.Grammar
