import Playbook.Proofs.Outline.Relocation

/-!
# Where errors lie

Every error of reading the nodes of a document names a place in the document. Errors of reading a
sequence lie in one of its elements, so the way to them begins with the position of that element;
where the sequence is moved back, this position is all that changes in them.
-/

namespace Playbook

open Document
open Yaml (Node Kind)

namespace ParseError

/-- The place that an error names, if it is about a node of a document. -/
def location? : ParseError → Option Location
  | .io _ _ | .yaml _ => none
  | .unexpectedNode location _ _ => some location
  | .unknownField location _ => some location
  | .duplicateTask location _ _ => some location
  | .invalidField location _ _ => some location
  | .invalidElement location _ => some location

/-- The same error about another place. -/
def mapLocation (f : Location → Location) : ParseError → ParseError
  | .io path cause => .io path cause
  | .yaml cause => .yaml cause
  | .unexpectedNode location expected found => .unexpectedNode (f location) expected found
  | .unknownField location field => .unknownField (f location) field
  | .duplicateTask location existing task => .duplicateTask (f location) existing task
  | .invalidField location field reason => .invalidField (f location) field reason
  | .invalidElement location reason => .invalidElement (f location) reason

theorem location?_mapLocation (f : Location → Location) (error : ParseError) :
    (error.mapLocation f).location? = error.location?.map f := by
  cases error <;> rfl

theorem below_eq (above : Location) (error : ParseError) :
    error.below above = error.mapLocation (above ++ ·) := by
  cases error <;> rfl

end ParseError

/-! ## Errors name places -/

/-- If the computation fails, its error names a place. -/
def Placed {α : Type} : Except ParseError α → Prop
  | .ok _ => True
  | .error error => error.location?.isSome

namespace Placed

variable {α β : Type} {x : Except ParseError α}

protected theorem map (h : Placed x) (f : α → β) : Placed (x.map f) := by
  cases x with
  | error error => exact h
  | ok value => trivial

/-- The error may be passed on. -/
theorem of_error {error : ParseError} (h : Placed x) (herror : x = .error error) :
    Placed (.error error : Except ParseError β) := by
  subst herror
  exact h

theorem unexpected (location : Location) (expected : Shape) (found : Kind) :
    Placed (.error (unexpected location expected found) : Except ParseError α) :=
  rfl

theorem keyText (location : Location) (key : Node) : Placed (keyText location key) := by
  unfold Document.keyText
  cases key.string? <;> trivial

theorem scalarText (location : Location) (node : Node) : Placed (scalarText location node) := by
  unfold Document.scalarText
  cases node.scalar? <;> trivial

theorem parseConditions (location : Location) (position : Nat) (nodes : List Node) :
    Placed (parseConditions location position nodes) := by
  induction nodes generalizing position with
  | nil => trivial
  | cons node rest ih =>
    rw [Document.parseConditions]
    split
    · next herror => exact (scalarText _ node).of_error herror
    · exact (ih (position + 1)).map _

theorem parseGuards (location : Location) (node : Node) : Placed (parseGuards location node) := by
  unfold Document.parseGuards
  split
  · exact parseConditions location 0 _
  · exact (scalarText location _).map _

theorem parseVariables (location : Location) (environment : Environment)
    (entries : List (Node × Node)) : Placed (parseVariables location environment entries) := by
  induction entries generalizing environment with
  | nil => trivial
  | cons entry rest ih =>
    rw [Document.parseVariables]
    split
    · next herror => exact (keyText location entry.1).of_error herror
    · split
      · next herror => exact (scalarText _ entry.2).of_error herror
      · exact ih _

theorem parseEnvironment (location : Location) (node : Node) :
    Placed (parseEnvironment location node) := by
  unfold Document.parseEnvironment
  cases node.map? with
  | none => trivial
  | some entries => exact parseVariables location ∅ entries

theorem parseLoopItems (location : Location) (node : Node) :
    Placed (parseLoopItems location node) := by
  unfold Document.parseLoopItems
  cases node.seq? with
  | none => trivial
  | some nodes =>
    dsimp only
    cases Node.itemsToJson nodes <;> trivial

theorem parseLoopParts (location : Location) (var : Option String) (items : Option (List Json))
    (entries : List (Node × Node)) : Placed (parseLoopParts location var items entries) := by
  induction entries generalizing var items with
  | nil => trivial
  | cons entry rest ih =>
    rw [Document.parseLoopParts]
    split
    · next herror => exact (keyText location entry.1).of_error herror
    · split
      · split
        · next herror => exact (scalarText _ entry.2).of_error herror
        · exact ih _ _
      · split
        · split
          · next herror => exact (parseLoopItems location entry.2).of_error herror
          · exact ih _ _
        · trivial

theorem parseLoop (location : Location) (node : Node) : Placed (parseLoop location node) := by
  unfold Document.parseLoop
  cases node.map? with
  | none => trivial
  | some entries =>
    dsimp only
    split
    · next herror => exact (parseLoopParts location none none entries).of_error herror
    · split <;> trivial

theorem parseIgnoreErrors (location : Location) (node : Node) :
    Placed (parseIgnoreErrors location node) := by
  unfold Document.parseIgnoreErrors
  cases node.bool? <;> trivial

theorem parseTask (location : Location) (kind : String) (node : Node) :
    Placed (parseTask location kind node) := by
  unfold Document.parseTask
  cases node.map? with
  | none => trivial
  | some entries =>
    dsimp only
    rcases node.toJson with _ | json
    · trivial
    · cases json <;> trivial

theorem readField (location : Location) (field : ControlField) (node : Node) (heading : Heading) :
    Placed (Outline.readField location field node heading) := by
  cases field with
  | name | register => exact (scalarText location node).map _
  | guards => exact (parseGuards location node).map _
  | environment => exact (parseEnvironment location node).map _
  | loop => exact (parseLoop location node).map _
  | ignoreErrors => exact (parseIgnoreErrors location node).map _
  | block => trivial

/-- An error in an entry names a place, if errors in its value as a block do. -/
theorem readEntry (registry : Registry) (location : Location) (key value : Node)
    (outline : Outline)
    (hblock : ∀ location, Placed (Outline.readBlock registry location value.kind value)) :
    Placed (Outline.readEntry registry location (key, value) outline) := by
  rw [Outline.readEntry]
  split
  · next herror => exact (keyText location key).of_error herror
  · split
    · exact (hblock _).map _
    · exact (readField _ _ value outline.heading).map _
    · split
      · split
        · trivial
        · exact (parseTask _ _ value).map _
      · trivial

mutual

theorem read (registry : Registry) (found : Kind) : (location : Location) → (node : Node) →
    Placed (Outline.read registry location found node)
  | location, .map entries => by
    rw [Outline.read]
    split
    · next herror => exact (readEntries registry location entries Outline.blank).of_error herror
    · split <;> trivial
  | location, .tagged _ content => by
    rw [Outline.read]
    exact read registry found location content
  | _, .null | _, .bool _ | _, .int _ | _, .float _ | _, .str _ | _, .seq _ =>
    unexpected _ .mapping found

theorem readEntries (registry : Registry) : (location : Location) →
    (entries : List (Node × Node)) → (outline : Outline) →
    Placed (Outline.readEntries registry location entries outline)
  | _, [], _ => trivial
  | location, (key, value) :: rest, outline => by
    rw [Outline.readEntries]
    have hblock (location : Location) := readBlock registry value.kind location value
    split
    · next herror => exact (readEntry registry location key value outline hblock).of_error herror
    · exact readEntries registry location rest _

theorem readBlock (registry : Registry) (found : Kind) : (location : Location) → (node : Node) →
    Placed (Outline.readBlock registry location found node)
  | location, .seq nodes => by
    rw [Outline.readBlock]
    exact readItems registry location 0 nodes
  | location, .tagged _ content => by
    rw [Outline.readBlock]
    exact readBlock registry found location content
  | _, .null | _, .bool _ | _, .int _ | _, .float _ | _, .str _ | _, .map _ =>
    unexpected _ .sequence found

theorem readItems (registry : Registry) : (location : Location) → (position : Nat) →
    (nodes : List Node) → Placed (Outline.readItems registry location position nodes)
  | _, _, [] => trivial
  | location, position, node :: rest => by
    rw [Outline.readItems]
    split
    · next herror => exact (read registry node.kind (location.item position) node).of_error herror
    · exact (readItems registry location (position + 1) rest).map _

end

end Placed

end Playbook
