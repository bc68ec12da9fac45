import Playbook.Proofs.Grammar.Value

/-!
# Loops in the grammar

The reader of loops succeeds exactly on the loops of the grammar. It goes through the entries in
order, and what it found in the end depends on the last entry with items only.
-/

namespace Playbook.Grammar

open Yaml (Node)
open Document
open Outline (map_eq_ok)

/-! ## What the last entry with a key decides -/

/-- Whether a sequence is filled in the end, when it was or was not before the entries. -/
def FilledAfter (text : String) (before : Prop) (entries : List (Node × Node)) : Prop :=
  LastFilled text entries ∨ before ∧ ∀ entry ∈ entries, ¬ Names text entry

section

variable {text : String} {before : Prop} {entry : Node × Node} {rest : List (Node × Node)}

theorem filledAfter_nil : FilledAfter text before [] ↔ before := by
  constructor
  · rintro (h | ⟨h, -⟩)
    · cases h
    · exact h
  · exact fun h ↦ .inr ⟨h, fun _ hmem ↦ nomatch hmem⟩

theorem filledAfter_false {entries : List (Node × Node)} :
    FilledAfter text False entries ↔ LastFilled text entries := by
  simp [FilledAfter]

theorem filledAfter_cons_of_not (h : ¬ Names text entry) :
    FilledAfter text before (entry :: rest) ↔ FilledAfter text before rest := by
  have hlast : LastFilled text (entry :: rest) ↔ LastFilled text rest := by
    constructor
    · intro hlast
      cases hlast with
      | here names => exact absurd names h
      | later later => exact later
    · exact .later
  rw [FilledAfter, FilledAfter, hlast, List.forall_mem_cons, and_iff_right h]

/-- An entry with the key makes what was before it irrelevant. -/
theorem filledAfter_cons {items : List Node} (h : Names text entry)
    (hitems : entry.2.untagged = .seq items) :
    FilledAfter text before (entry :: rest) ↔ FilledAfter text (items ≠ []) rest := by
  have hlast : LastFilled text (entry :: rest) ↔ FilledAfter text (items ≠ []) rest := by
    constructor
    · intro hlast
      cases hlast with
      | here names filled last =>
        obtain rfl := Node.seq.inj (filled.symm.trans hitems)
        exact .inr ⟨List.cons_ne_nil _ _, last⟩
      | later later => exact .inl later
    · rintro (hlater | ⟨hfilled, hnone⟩)
      · exact .later hlater
      · obtain ⟨item, others, rfl⟩ := List.exists_cons_of_ne_nil hfilled
        exact .here h hitems hnone
  constructor
  · rintro (hfilled | ⟨-, hnone⟩)
    · exact hlast.mp hfilled
    · exact absurd h (hnone entry List.mem_cons_self)
  · exact fun hfilled ↦ .inl (hlast.mpr hfilled)

end

/-! ## Loops -/

theorem parseLoopItems_ok_iff (location : Location) (node : Node) :
    (∃ values, parseLoopItems location node = .ok values) ↔
      ∃ items, node.untagged = .seq items ∧ ∀ item ∈ items, IsJson item := by
  simp only [← seq?_eq_some]
  unfold parseLoopItems
  cases node.seq? with
  | none => simp
  | some items =>
    simp only [Option.some.injEq, exists_eq_left', ← itemsToJson_ok_iff]
    cases Node.itemsToJson items <;> simp

theorem parseLoopItems_eq_ok {location : Location} {node : Node} {values : List Json}
    (h : parseLoopItems location node = .ok values) :
    ∃ items, node.untagged = .seq items ∧ (values = [] ↔ items = []) := by
  unfold parseLoopItems at h
  cases hseq : node.seq? with
  | none => simp [hseq] at h
  | some items =>
    simp only [hseq] at h
    cases hvalues : Node.itemsToJson items with
    | error fault => simp [hvalues] at h
    | ok found =>
      simp only [hvalues, Except.ok.injEq] at h
      obtain rfl := h
      refine ⟨items, seq?_eq_some.mp hseq, ?_⟩
      rw [← List.length_eq_zero_iff, ← List.length_eq_zero_iff, length_itemsToJson hvalues]

/-- An entry of a loop sets the template or the items. -/
theorem parseLoopParts_cons (location : Location) (var : Option String)
    (items : Option (List Json)) (key value : Node) (rest : List (Node × Node))
    (parts : Option String × Option (List Json)) :
    parseLoopParts location var items ((key, value) :: rest) = .ok parts ↔
      (Names "var" (key, value) ∧
        ∃ template, scalarText (location.field "var") value = .ok template ∧
          parseLoopParts location (some template) items rest = .ok parts) ∨
      (Names "items" (key, value) ∧
        ∃ values, parseLoopItems location value = .ok values ∧
          parseLoopParts location var (some values) rest = .ok parts) := by
  have hnames (text : String) : Names text (key, value) ↔ keyText location key = .ok text :=
    keyText_ok_iff.symm
  rw [hnames, hnames, parseLoopParts]
  cases keyText location key with
  | error error => simp
  | ok text =>
    simp only [Except.ok.injEq]
    by_cases hvar : text = "var"
    · subst hvar
      cases scalarText (location.field "var") value <;> simp
    · by_cases hitems : text = "items"
      · subst hitems
        cases parseLoopItems location value <;> simp
      · simp [hvar, hitems]

theorem parseLoopParts_ok_iff (location : Location) (var : Option String)
    (items : Option (List Json)) (entries : List (Node × Node)) :
    (∃ parts, parseLoopParts location var items entries = .ok parts) ↔
      ∀ entry ∈ entries, IsLoopEntry entry := by
  induction entries generalizing var items with
  | nil => simp [parseLoopParts]
  | cons entry rest ih =>
    obtain ⟨key, value⟩ := entry
    rw [List.forall_mem_cons]
    constructor
    · rintro ⟨parts, h⟩
      rcases (parseLoopParts_cons ..).mp h with
        ⟨hnames, template, htemplate, hrest⟩ | ⟨hnames, values, hvalues, hrest⟩
      · have hscalar := (scalarText_ok_iff _ value).mp ⟨template, htemplate⟩
        exact ⟨.var hnames hscalar, (ih _ _).mp ⟨parts, hrest⟩⟩
      · obtain ⟨nodes, hnodes, hjson⟩ := (parseLoopItems_ok_iff _ value).mp ⟨values, hvalues⟩
        exact ⟨.items hnames hnodes hjson, (ih _ _).mp ⟨parts, hrest⟩⟩
    · rintro ⟨hentry, hrest⟩
      cases hentry with
      | var names scalar =>
        obtain ⟨template, htemplate⟩ := (scalarText_ok_iff (location.field "var") value).mpr scalar
        obtain ⟨parts, hparts⟩ := (ih (some template) items).mpr hrest
        exact ⟨parts, (parseLoopParts_cons ..).mpr (.inl ⟨names, template, htemplate, hparts⟩)⟩
      | items names sequence json =>
        obtain ⟨values, hvalues⟩ :=
          (parseLoopItems_ok_iff location value).mpr ⟨_, sequence, json⟩
        obtain ⟨parts, hparts⟩ := (ih var (some values)).mpr hrest
        exact ⟨parts, (parseLoopParts_cons ..).mpr (.inr ⟨names, values, hvalues, hparts⟩)⟩

/-- Items are given and not empty. -/
def IsFilled (items : Option (List Json)) : Prop :=
  ∃ values, items = some values ∧ values ≠ []

theorem isFilled_iff {items : Option (List Json)} :
    IsFilled items ↔ (items.filter (!·.isEmpty)).isSome := by
  rcases items with _ | _ | ⟨value, values⟩ <;> simp [IsFilled]

theorem isFilled_some {values : List Json} : IsFilled (some values) ↔ values ≠ [] := by
  simp [IsFilled]

/-- A template is found if some entry gives one, and items are filled if those of the last entry
with items are. -/
theorem parseLoopParts_eq_ok {location : Location} {entries : List (Node × Node)} :
    ∀ {var after : Option String} {items filled : Option (List Json)},
      parseLoopParts location var items entries = .ok (after, filled) →
      (after.isSome ↔ var.isSome ∨ ∃ entry ∈ entries, Names "var" entry) ∧
        (IsFilled filled ↔ FilledAfter "items" (IsFilled items) entries) := by
  induction entries with
  | nil =>
    intro var after items filled h
    cases h
    simp [filledAfter_nil]
  | cons entry rest ih =>
    intro var after items filled h
    obtain ⟨key, value⟩ := entry
    rcases (parseLoopParts_cons ..).mp h with
      ⟨hnames, template, htemplate, hrest⟩ | ⟨hnames, values, hvalues, hrest⟩
    · have hother : ¬ Names "items" (key, value) := fun hitems ↦
        absurd (hnames.text_eq hitems) (by decide)
      obtain ⟨hvar, hfilled⟩ := ih hrest
      rw [hvar, hfilled, filledAfter_cons_of_not hother]
      simp [hnames]
    · have hother : ¬ Names "var" (key, value) := fun hvar ↦
        absurd (hnames.text_eq hvar) (by decide)
      obtain ⟨nodes, hnodes, hempty⟩ := parseLoopItems_eq_ok hvalues
      obtain ⟨hvar, hfilled⟩ := ih hrest
      rw [hvar, hfilled, filledAfter_cons hnames hnodes, isFilled_some, ne_eq, hempty]
      simp [hother]

theorem ofParts_ok_iff (var : Option String) (items : Option (List Json)) :
    (∃ loop, LoopSpec.ofParts var items = .ok loop) ↔ (var.isSome ↔ ¬ IsFilled items) := by
  rw [isFilled_iff]
  unfold LoopSpec.ofParts
  cases var <;> cases items.filter (!·.isEmpty) <;> simp

theorem parseLoop_ok_iff (location : Location) (node : Node) :
    (∃ loop, parseLoop location node = .ok loop) ↔ IsLoop node := by
  simp only [IsLoop, ← map?_eq_some]
  unfold parseLoop
  cases node.map? with
  | none => simp
  | some entries =>
    simp only [Option.some.injEq, exists_eq_left']
    rw [← parseLoopParts_ok_iff location none none]
    cases hparts : parseLoopParts location none none entries with
    | error error => simp
    | ok parts =>
      obtain ⟨var, items⟩ := parts
      obtain ⟨hvar, hfilled⟩ := parseLoopParts_eq_ok hparts
      have hnone : IsFilled none ↔ False := by simp [IsFilled]
      rw [hnone, filledAfter_false] at hfilled
      simp only [Option.isSome_none, Bool.false_eq_true, false_or] at hvar
      rw [← hvar, ← hfilled, ← ofParts_ok_iff]
      dsimp only
      cases LoopSpec.ofParts var items <;> simp

end Playbook.Grammar
