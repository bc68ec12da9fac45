import Playbook.Proofs.Outline.Reading

/-!
# Reading at another place

Where a node stands in its document shows only in errors. A node that is read below some place gives
what it gives at the root, and its errors name the same places below that place.
-/

namespace Playbook

open Document
open Yaml (Node Kind)

/-- The error with its places seen from further up. -/
def ParseError.below (above : Location) : ParseError → ParseError
  | .io path cause => .io path cause
  | .yaml cause => .yaml cause
  | .unexpectedNode location expected found => .unexpectedNode (above ++ location) expected found
  | .unknownField location field => .unknownField (above ++ location) field
  | .duplicateTask location existing task => .duplicateTask (above ++ location) existing task
  | .invalidField location field reason => .invalidField (above ++ location) field reason
  | .invalidElement location reason => .invalidElement (above ++ location) reason

theorem mapError_ok {ε ε' α : Type} (f : ε → ε') (value : α) :
    (Except.ok value).mapError f = .ok value :=
  rfl

theorem mapError_map {ε ε' α β : Type} (x : Except ε α) (f : ε → ε') (g : α → β) :
    (x.mapError f).map g = (x.map g).mapError f := by
  cases x <;> rfl

theorem Location.append_item (above location : Location) (position : Nat) :
    Location.item (above ++ location) position = above ++ location.item position :=
  List.append_assoc above location _

theorem Location.append_field (above location : Location) (name : String) :
    Location.field (above ++ location) name = above ++ location.field name :=
  List.append_assoc above location _

namespace Document

variable (above location : Location)

theorem keyText_below (key : Node) :
    keyText (above ++ location) key = (keyText location key).mapError (·.below above) := by
  unfold keyText
  cases key.string? <;> rfl

theorem scalarText_below (node : Node) :
    scalarText (above ++ location) node = (scalarText location node).mapError (·.below above) := by
  unfold scalarText
  cases node.scalar? <;> rfl

theorem parseConditions_below (position : Nat) (nodes : List Node) :
    parseConditions (above ++ location) position nodes =
      (parseConditions location position nodes).mapError (·.below above) := by
  induction nodes generalizing position with
  | nil => rfl
  | cons node rest ih =>
    rw [parseConditions, parseConditions, Location.append_item, scalarText_below]
    cases scalarText (location.item position) node with
    | error error => rfl
    | ok condition =>
      simp only [mapError_ok, ih]
      exact mapError_map _ _ _

theorem parseGuards_below (node : Node) :
    parseGuards (above ++ location) node =
      (parseGuards location node).mapError (·.below above) := by
  cases node
  case seq conditions => exact parseConditions_below above location 0 conditions
  all_goals simp only [parseGuards, scalarText_below, mapError_map]

theorem parseVariables_below (environment : Environment) (entries : List (Node × Node)) :
    parseVariables (above ++ location) environment entries =
      (parseVariables location environment entries).mapError (·.below above) := by
  induction entries generalizing environment with
  | nil => rfl
  | cons entry rest ih =>
    obtain ⟨key, value⟩ := entry
    rw [parseVariables, parseVariables, keyText_below]
    cases keyText location key with
    | error error => rfl
    | ok key =>
      simp only [mapError_ok, Location.append_field, scalarText_below]
      cases scalarText (location.field key) value with
      | error error => rfl
      | ok value => exact ih _

theorem parseEnvironment_below (node : Node) :
    parseEnvironment (above ++ location) node =
      (parseEnvironment location node).mapError (·.below above) := by
  unfold parseEnvironment
  cases node.map? with
  | none => rfl
  | some entries => exact parseVariables_below above location ∅ entries

theorem parseLoopItems_below (node : Node) :
    parseLoopItems (above ++ location) node =
      (parseLoopItems location node).mapError (·.below above) := by
  unfold parseLoopItems
  cases node.seq? with
  | none =>
    rw [Location.append_field]
    rfl
  | some nodes =>
    dsimp only
    cases Node.itemsToJson nodes <;> rfl

theorem parseLoopParts_below (var : Option String) (items : Option (List Json))
    (entries : List (Node × Node)) :
    parseLoopParts (above ++ location) var items entries =
      (parseLoopParts location var items entries).mapError (·.below above) := by
  induction entries generalizing var items with
  | nil => rfl
  | cons entry rest ih =>
    obtain ⟨key, value⟩ := entry
    rw [parseLoopParts, parseLoopParts, keyText_below]
    cases keyText location key with
    | error error => rfl
    | ok key =>
      simp only [mapError_ok, Location.append_field, scalarText_below, parseLoopItems_below]
      split
      · cases scalarText (location.field key) value with
        | error error => rfl
        | ok template => exact ih _ _
      · split
        · cases parseLoopItems location value with
          | error error => rfl
          | ok items => exact ih _ _
        · rfl

theorem parseLoop_below (node : Node) :
    parseLoop (above ++ location) node = (parseLoop location node).mapError (·.below above) := by
  unfold parseLoop
  cases node.map? with
  | none => rfl
  | some entries =>
    simp only [parseLoopParts_below]
    cases parseLoopParts location none none entries with
    | error error => rfl
    | ok parts =>
      simp only [mapError_ok]
      cases LoopSpec.ofParts parts.1 parts.2 <;> rfl

theorem parseIgnoreErrors_below (node : Node) :
    parseIgnoreErrors (above ++ location) node =
      (parseIgnoreErrors location node).mapError (·.below above) := by
  unfold parseIgnoreErrors
  cases node.bool? <;> rfl

theorem parseTask_below (kind : String) (node : Node) :
    parseTask (above ++ location) kind node =
      (parseTask location kind node).mapError (·.below above) := by
  unfold parseTask
  cases node.map? with
  | none => rfl
  | some entries =>
    dsimp only
    rcases node.toJson with _ | json
    · rfl
    · cases json <;> rfl

end Document

namespace Outline

variable (above location : Location) (registry : Registry)

theorem readField_below (field : ControlField) (node : Node) (heading : Heading) :
    readField (above ++ location) field node heading =
      (readField location field node heading).mapError (·.below above) := by
  cases field
  case block => rfl
  all_goals
    simp only [readField, scalarText_below, parseGuards_below, parseEnvironment_below,
      parseLoop_below, parseIgnoreErrors_below, mapError_map]

/-- An entry reads below a place as at the root, if its value does so as a block. -/
theorem readEntry_below (key value : Node) (outline : Outline)
    (hblock : ∀ location, readBlock registry (above ++ location) value.kind value =
      (readBlock registry location value.kind value).mapError (·.below above)) :
    readEntry registry (above ++ location) (key, value) outline =
      (readEntry registry location (key, value) outline).mapError (·.below above) := by
  rw [readEntry, readEntry, keyText_below]
  cases keyText location key with
  | error error => rfl
  | ok text =>
    simp only [mapError_ok, Location.append_field]
    cases ControlField.ofKey? text with
    | some field =>
      cases field
      case block =>
        simp only [hblock]
        exact mapError_map _ _ _
      all_goals
        simp only [readField_below]
        exact mapError_map _ _ _
    | none =>
      dsimp only
      split
      · cases outline.heading.task with
        | some existing => rfl
        | none =>
          simp only [parseTask_below]
          exact mapError_map _ _ _
      · rfl

mutual

/-- An element reads below a place as it reads at the root. -/
theorem read_below (found : Kind) : (location : Location) → (node : Node) →
    read registry (above ++ location) found node =
      (read registry location found node).mapError (·.below above)
  | location, .map entries => by
    rw [read, read, readEntries_below]
    cases readEntries registry location entries blank with
    | error error => rfl
    | ok outline =>
      simp only [mapError_ok]
      cases outline.validate <;> rfl
  | location, .tagged _ content => by
    rw [read, read]
    exact read_below found location content
  | _, .null | _, .bool _ | _, .int _ | _, .float _ | _, .str _ | _, .seq _ => rfl

theorem readEntries_below : (location : Location) → (entries : List (Node × Node)) →
    (outline : Outline) → readEntries registry (above ++ location) entries outline =
      (readEntries registry location entries outline).mapError (·.below above)
  | _, [], _ => rfl
  | location, (key, value) :: rest, outline => by
    rw [readEntries, readEntries, readEntry_below above location registry key value outline
      fun location ↦ readBlock_below value.kind location value]
    cases readEntry registry location (key, value) outline with
    | error error => rfl
    | ok next => exact readEntries_below location rest next

theorem readBlock_below (found : Kind) : (location : Location) → (node : Node) →
    readBlock registry (above ++ location) found node =
      (readBlock registry location found node).mapError (·.below above)
  | location, .seq nodes => by
    rw [readBlock, readBlock]
    exact readItems_below location 0 nodes
  | location, .tagged _ content => by
    rw [readBlock, readBlock]
    exact readBlock_below found location content
  | _, .null | _, .bool _ | _, .int _ | _, .float _ | _, .str _ | _, .map _ => rfl

theorem readItems_below : (location : Location) → (position : Nat) → (nodes : List Node) →
    readItems registry (above ++ location) position nodes =
      (readItems registry location position nodes).mapError (·.below above)
  | _, _, [] => rfl
  | location, position, node :: rest => by
    rw [readItems, readItems, Location.append_item, read_below]
    cases read registry (location.item position) node.kind node with
    | error error => rfl
    | ok outline =>
      simp only [mapError_ok, readItems_below location (position + 1) rest]
      exact mapError_map _ _ _

end

end Outline

end Playbook
