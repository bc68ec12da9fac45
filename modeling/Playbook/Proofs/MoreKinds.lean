import Playbook.Proofs.Outline.Reading

/-!
# Reading with more kinds of tasks

What a registry knows decides only whether a key that no control field has names a task. So a
document means the same to a registry that knows more kinds: it is read into the same tree, or is
refused for the same fault. Only a key that was unknown may be known then, and what comes of the
document after it is open.
-/

namespace Playbook

open Document
open Yaml (Node Kind)

/-- The second registry knows all the kinds that the first one knows. -/
def Registry.Within (registry larger : Registry) : Prop :=
  ∀ kind, registry.has kind = true → larger.has kind = true

/-- The second result is the first one, unless that is an unknown field. -/
inductive Persists {α : Type} (first second : Except ParseError α) : Prop where
  | same (eq : second = first)
  | unknown {location : Location} {field : String}
      (eq : first = .error (.unknownField location field))

namespace Persists

variable {α β : Type} {first second : Except ParseError α}

theorem refl (result : Except ParseError α) : Persists result result :=
  .same rfl

theorem map (h : Persists first second) (f : α → β) :
    Persists (first.map f) (second.map f) := by
  cases h with
  | same eq =>
    rw [eq]
    exact refl _
  | unknown eq =>
    rw [eq]
    exact .unknown rfl

theorem ok (h : Persists first second) {value : α} (hfirst : first = .ok value) :
    second = .ok value := by
  cases h with
  | same eq => exact eq.trans hfirst
  | unknown eq => cases eq.symm.trans hfirst

theorem error (h : Persists first second) {error : ParseError} (hfirst : first = .error error)
    (hknown : ∀ location field, error ≠ .unknownField location field) :
    second = .error error := by
  cases h with
  | same eq => exact eq.trans hfirst
  | unknown eq => exact absurd (Except.error.inj (hfirst.symm.trans eq)) (hknown _ _)

end Persists

namespace Outline

variable {registry larger : Registry}

/-- An entry is read by both alike, if its value is as a block. -/
theorem readEntry_persists (h : registry.Within larger) (location : Location) (key value : Node)
    (outline : Outline)
    (hblock : ∀ location, Persists (readBlock registry location value.kind value)
      (readBlock larger location value.kind value)) :
    Persists (readEntry registry location (key, value) outline)
      (readEntry larger location (key, value) outline) := by
  rw [readEntry, readEntry]
  cases keyText location key with
  | error error => exact .refl _
  | ok text =>
    dsimp only
    cases ControlField.ofKey? text with
    | some field =>
      cases field
      case block => exact (hblock _).map _
      all_goals exact .refl _
    | none =>
      dsimp only
      cases hknown : registry.has text with
      | false => exact .unknown rfl
      | true =>
        rw [h text hknown]
        exact .refl _

mutual

theorem read_persists (h : registry.Within larger) (found : Kind) : (location : Location) →
    (node : Node) →
    Persists (read registry location found node) (read larger location found node)
  | location, .map entries => by
    rw [read, read]
    cases readEntries_persists h location entries blank with
    | same eq =>
      rw [eq]
      exact .refl _
    | unknown eq =>
      rw [eq]
      exact .unknown rfl
  | location, .tagged _ content => by
    rw [read, read]
    exact read_persists h found location content
  | _, .null | _, .bool _ | _, .int _ | _, .float _ | _, .str _ | _, .seq _ => .refl _

theorem readEntries_persists (h : registry.Within larger) : (location : Location) →
    (entries : List (Node × Node)) → (outline : Outline) →
    Persists (readEntries registry location entries outline)
      (readEntries larger location entries outline)
  | _, [], _ => .refl _
  | location, (key, value) :: rest, outline => by
    have hentry := readEntry_persists h location key value outline
      fun location ↦ readBlock_persists h value.kind location value
    rw [readEntries, readEntries]
    cases hentry with
    | unknown eq =>
      rw [eq]
      exact .unknown rfl
    | same eq =>
      rw [eq]
      cases readEntry registry location (key, value) outline with
      | error error => exact .refl _
      | ok next => exact readEntries_persists h location rest next

theorem readBlock_persists (h : registry.Within larger) (found : Kind) : (location : Location) →
    (node : Node) →
    Persists (readBlock registry location found node) (readBlock larger location found node)
  | location, .seq nodes => by
    rw [readBlock, readBlock]
    exact readItems_persists h location 0 nodes
  | location, .tagged _ content => by
    rw [readBlock, readBlock]
    exact readBlock_persists h found location content
  | _, .null | _, .bool _ | _, .int _ | _, .float _ | _, .str _ | _, .map _ => .refl _

theorem readItems_persists (h : registry.Within larger) : (location : Location) →
    (position : Nat) → (nodes : List Node) →
    Persists (readItems registry location position nodes)
      (readItems larger location position nodes)
  | _, _, [] => .refl _
  | location, position, node :: rest => by
    rw [readItems, readItems]
    cases read_persists h node.kind (location.item position) node with
    | unknown eq =>
      rw [eq]
      exact .unknown rfl
    | same eq =>
      rw [eq]
      cases read registry (location.item position) node.kind node with
      | error error => exact .refl _
      | ok outline => exact (readItems_persists h location (position + 1) rest).map _

end

theorem ofNode_persists (h : registry.Within larger) (document : Node) :
    Persists (Document.ofNode registry document) (Document.ofNode larger document) := by
  rw [ofNode_eq_tree, ofNode_eq_tree]
  refine Persists.map ?_ tree
  cases document
  case seq nodes => exact readItems_persists h [] 0 nodes
  all_goals exact .refl _

end Outline

/-- A document that a registry reads is read into the same tree by one that knows more kinds, and a
fault other than an unknown field is the same fault for that one too. -/
theorem ofNode_moreKinds {registry larger : Registry} (h : registry.Within larger)
    (document : Node) :
    (∀ tree, Document.ofNode registry document = .ok tree →
      Document.ofNode larger document = .ok tree) ∧
    ∀ error, Document.ofNode registry document = .error error →
      (∀ location field, error ≠ .unknownField location field) →
      Document.ofNode larger document = .error error := by
  have hpersists := Outline.ofNode_persists h document
  exact ⟨fun tree htree ↦ hpersists.ok htree, fun error herror ↦ hpersists.error herror⟩

/-- A block with a task in it, and behind it an element with nothing in it. -/
theorem ofNode_moreKinds_echoing :
    let group : Node := .map [(.str "block", .seq [.map [(.str "echo", .map [])]])]
    ∃ registry larger tree error, Registry.ofKinds [.echo] = .ok registry ∧
      Registry.ofKinds [.fail, .echo] = .ok larger ∧ registry.Within larger ∧
      Document.ofNode registry (.seq [group]) = .ok tree ∧
      Document.ofNode larger (.seq [group]) = .ok tree ∧
      Document.ofNode registry (.seq [group, .map []]) = .error error ∧
      Document.ofNode larger (.seq [group, .map []]) = .error error := by
  intro group
  obtain ⟨registry, larger, tree, error, hregistry, hlarger, hwithin, htree, herror, hcontent⟩ :
      ∃ registry larger tree error, Registry.ofKinds [.echo] = .ok registry ∧
        Registry.ofKinds [.fail, .echo] = .ok larger ∧ registry.Within larger ∧
        Document.ofNode registry (.seq [group]) = .ok tree ∧
        Document.ofNode registry (.seq [group, .map []]) = .error error ∧
        error = .invalidElement [.index 1] Element.Fault.noContent.message := by
    refine ⟨_, _, _, _, rfl, rfl, fun kind hkind ↦ ?_, rfl, rfl, rfl⟩
    by_cases hecho : kind = "echo"
    · subst hecho
      rfl
    · have hnone : (⟨SortedMap.ofList [("echo", .echo)]⟩ : Registry).has kind = false := by
        simp [Registry.has, SortedMap.contains, SortedMap.ofList, SortedMap.insertMany,
          SortedMap.get?, SortedMap.insert, SortedMap.empty, Entries.insert, Entries.lookup, hecho]
      exact absurd (hnone.symm.trans hkind) Bool.false_ne_true
  have hok := (ofNode_moreKinds hwithin (.seq [group])).1 tree htree
  refine ⟨registry, larger, tree, error, hregistry, hlarger, hwithin, htree, hok,
    herror, ?_⟩
  refine (ofNode_moreKinds hwithin (.seq [group, .map []])).2 error herror fun location field ↦ ?_
  rw [hcontent]
  exact ParseError.noConfusion

end Playbook
