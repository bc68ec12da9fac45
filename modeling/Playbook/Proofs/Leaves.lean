import Playbook.Proofs.Asking

/-!
# Strings as they are written

The leaves of a value are the strings in it that may be templates, in the order in which resolving
asks for them. Resolving an element of a tree, and the variables around it, asks for leaves of that
tree and for nothing else, also when it fails; and it leaves the children of the element, what
happens to its errors and the kind of its task as they are.
-/

namespace Playbook

mutual

def Json.leaves : Json → List String
  | .str text => [text]
  | .arr items => Json.leavesOfItems items
  | .obj fields => Json.leavesOfFields fields
  | _ => []

def Json.leavesOfItems : List Json → List String
  | [] => []
  | item :: rest => item.leaves ++ Json.leavesOfItems rest

def Json.leavesOfFields : List (String × Json) → List String
  | [] => []
  | (_, value) :: rest => value.leaves ++ Json.leavesOfFields rest

end

def LoopSpec.leaves : LoopSpec → List String
  | .var template => [template]
  | .items values => Json.leavesOfItems values

def Invocation.leaves (task : Invocation) : List String :=
  Json.leavesOfFields task.config

/-- The strings of an element: name, guards, registered name, variables, loop, task. -/
def Element.leaves (element : Element) : List String :=
  element.name.toList ++ element.guards ++ element.register.toList ++
    element.environment.entries.map (·.2) ++ element.loop.elim [] LoopSpec.leaves ++
    element.task.elim [] Invocation.leaves

def Tree.leaves (tree : Tree) : List String :=
  tree.elements.toList.flatMap Element.leaves

theorem Tree.mem_leaves {tree : Tree} {slot : Slot} {element : Element}
    (h : tree.get? slot = some element) {text : String} (htext : text ∈ element.leaves) :
    text ∈ tree.leaves := by
  have hmem : element ∈ tree.elements.toList := by
    rw [Array.mem_toList_iff]
    exact Array.mem_of_getElem? h
  exact List.mem_flatMap.mpr ⟨element, hmem, htext⟩

namespace Resolving

variable {α β : Type} {G : String → Prop} {Q : α → Prop} {Q' : β → Prop}

/-- Resolving asks only for strings of `G`, and the values it gives are as `Q` says. -/
def Gives (G : String → Prop) (resolve : Resolving α) (Q : α → Prop) : Prop :=
  ∀ r, (∃ asked, (resolve.run r).2.calls = asked ++ r.calls ∧ ∀ text ∈ asked, G text) ∧
    ∀ value, (resolve.run r).1 = .ok value → Q value

namespace Gives

protected theorem pure {value : α} (h : Q value) : Gives G (Pure.pure value) Q := by
  intro r
  refine ⟨⟨[], rfl, fun text htext ↦ nomatch htext⟩, fun found hfound ↦ ?_⟩
  obtain rfl := Except.ok.inj hfound
  exact h

protected theorem bind {resolve : Resolving α} {next : α → Resolving β}
    (h : Gives G resolve Q) (hnext : ∀ value, Q value → Gives G (next value) Q') :
    Gives G (resolve >>= next) Q' := by
  intro r
  obtain ⟨⟨asked, hcalls, hasked⟩, hvalue⟩ := h r
  rcases hrun : resolve.run r with ⟨result, r'⟩
  rw [hrun] at hcalls hvalue
  cases result with
  | error error =>
    rw [run_bind_of_error hrun]
    exact ⟨⟨asked, hcalls, hasked⟩, nofun⟩
  | ok value =>
    rw [run_bind_of_ok hrun]
    obtain ⟨⟨later, hlater, hmem⟩, hfinal⟩ := hnext value (hvalue value rfl) r'
    refine ⟨⟨later ++ asked, ?_, fun text htext ↦ ?_⟩, hfinal⟩
    · rw [hlater, hcalls, List.append_assoc]
    · rcases List.mem_append.mp htext with hnew | hold
      · exact hmem text hnew
      · exact hasked text hold

theorem text (scope : Scope) {template : String} (h : G template) :
    Gives G (Resolving.text scope template) fun _ ↦ True := by
  intro r
  have hmodify : (modify (Resolving.call template) : Resolving PUnit).run r =
      (.ok ⟨⟩, Resolving.call template r) := rfl
  have hcalls : ((Resolving.text scope template).run r).2.calls = [template] ++ r.calls := by
    rw [Resolving.text, run_bind_of_ok hmodify]
    cases scope.resolver template scope.facts <;> rfl
  refine ⟨⟨[template], hcalls, fun found hfound ↦ ?_⟩, fun _ _ ↦ trivial⟩
  rwa [List.mem_singleton.mp hfound]

theorem enterSlot {slot : Slot} : Gives G (Resolving.enterSlot slot) fun _ ↦ True := by
  intro r
  rw [Resolving.enterSlot_run]
  refine ⟨⟨[], ?_, fun text htext ↦ nomatch htext⟩, fun _ _ ↦ trivial⟩
  split <;> rfl

theorem optional {resolve : α → Resolving α} {given : Option α} {Q : Option α → Prop}
    (hnone : given = none → Q none)
    (hsome : ∀ value, given = some value → Gives G (resolve value) fun found ↦ Q (some found)) :
    Gives G (Resolving.optional resolve given) Q := by
  cases given with
  | none => exact Gives.pure (hnone rfl)
  | some value => exact (hsome value rfl).bind fun resolved hresolved ↦ Gives.pure hresolved

theorem list (scope : Scope) {templates : List String} (hG : ∀ text ∈ templates, G text) :
    Gives G (Resolving.list (Resolving.text scope) templates) fun _ ↦ True := by
  induction templates with
  | nil => exact Gives.pure trivial
  | cons template rest ih =>
    have hfirst := text scope (hG template List.mem_cons_self)
    have hrest := ih fun found hfound ↦ hG found (List.mem_cons_of_mem _ hfound)
    exact hfirst.bind fun _ _ ↦ hrest.bind fun _ _ ↦ Gives.pure trivial

theorem entries (scope : Scope) {entries : List (String × String)}
    (hG : ∀ text ∈ entries.map (·.2), G text) :
    Gives G (Resolving.entries (Resolving.text scope) entries) fun _ ↦ True := by
  induction entries with
  | nil => exact Gives.pure trivial
  | cons entry rest ih =>
    have hfirst := text scope (hG entry.2 List.mem_cons_self)
    have hrest := ih fun found hfound ↦ hG found (List.mem_cons_of_mem _ hfound)
    exact hfirst.bind fun _ _ ↦ hrest.bind fun _ _ ↦ Gives.pure trivial

mutual

theorem json (scope : Scope) : (value : Json) → (∀ text ∈ value.leaves, G text) →
    Gives G (value.resolve scope) fun _ ↦ True
  | .str template, hG => by
    have htext := text scope (hG template List.mem_cons_self)
    exact htext.bind fun _ _ ↦ Gives.pure trivial
  | .arr items, hG => (jsonItems scope items hG).bind fun _ _ ↦ Gives.pure trivial
  | .obj fields, hG => (jsonFields scope fields hG).bind fun _ _ ↦ Gives.pure trivial
  | .null, _ | .bool _, _ | .int _, _ | .float _, _ => Gives.pure trivial

theorem jsonItems (scope : Scope) : (items : List Json) →
    (∀ text ∈ Json.leavesOfItems items, G text) →
    Gives G (Json.resolveItems scope items) fun _ ↦ True
  | [], _ => Gives.pure trivial
  | item :: rest, hG => by
    rw [Json.leavesOfItems] at hG
    have hfirst := json scope item fun found hfound ↦
      hG found (List.mem_append_left _ hfound)
    have hrest := jsonItems scope rest fun found hfound ↦
      hG found (List.mem_append_right _ hfound)
    exact hfirst.bind fun _ _ ↦ hrest.bind fun _ _ ↦ Gives.pure trivial

theorem jsonFields (scope : Scope) : (fields : List (String × Json)) →
    (∀ text ∈ Json.leavesOfFields fields, G text) →
    Gives G (Json.resolveFields scope fields) fun _ ↦ True
  | [], _ => Gives.pure trivial
  | (key, value) :: rest, hG => by
    rw [Json.leavesOfFields] at hG
    have hfirst := json scope value fun found hfound ↦
      hG found (List.mem_append_left _ hfound)
    have hrest := jsonFields scope rest fun found hfound ↦
      hG found (List.mem_append_right _ hfound)
    exact hfirst.bind fun _ _ ↦ hrest.bind fun _ _ ↦ Gives.pure trivial

end

theorem loop (scope : Scope) {spec : LoopSpec} (hG : ∀ text ∈ spec.leaves, G text) :
    Gives G (spec.resolve scope) fun _ ↦ True := by
  cases spec with
  | var template =>
    have htext := text scope (hG template List.mem_cons_self)
    exact htext.bind fun _ _ ↦ Gives.pure trivial
  | items values => exact (jsonItems scope values hG).bind fun _ _ ↦ Gives.pure trivial

theorem task (scope : Scope) {given : Invocation} (hG : ∀ text ∈ given.leaves, G text) :
    Gives G (given.resolve scope) fun resolved ↦ resolved.kind = given.kind :=
  (jsonFields scope given.config hG).bind fun _ _ ↦ Gives.pure rfl

end Gives

end Resolving

open Resolving

/-- The children, what happens to errors and the kind of the task are the same in both elements. -/
structure Element.SameShape (element resolved : Element) : Prop where
  block : resolved.block = element.block
  ignoreErrors : resolved.ignoreErrors = element.ignoreErrors
  task : resolved.task.map (·.kind) = element.task.map (·.kind)

variable {G : String → Prop} {scope : Scope} {tree : Tree}

theorem Element.resolve_gives {element : Element} (hG : ∀ text ∈ element.leaves, G text) :
    Gives G (element.resolve scope) element.SameShape := by
  have hname : ∀ template, element.name = some template → G template := by
    intro template hgiven
    exact hG template (by simp [Element.leaves, hgiven])
  have hguards : ∀ template ∈ element.guards, G template := by
    intro template hmem
    exact hG template (by simp [Element.leaves, hmem])
  have hregister : ∀ template, element.register = some template → G template := by
    intro template hgiven
    exact hG template (by simp [Element.leaves, hgiven])
  have hvariables : ∀ text ∈ element.environment.entries.map (·.2), G text := by
    intro text hmem
    apply hG text
    simp only [Element.leaves, List.mem_append, hmem, true_or, or_true]
  have hloop : ∀ spec, element.loop = some spec → ∀ text ∈ spec.leaves, G text := by
    intro spec hgiven text hmem
    exact hG text (by simp [Element.leaves, hgiven, hmem])
  have htask : ∀ task, element.task = some task → ∀ text ∈ task.leaves, G text := by
    intro task hgiven text hmem
    exact hG text (by simp [Element.leaves, hgiven, hmem])
  have henvironment : Gives G (element.environment.resolve scope) fun _ ↦ True :=
    (Gives.entries scope hvariables).bind fun _ _ ↦ Gives.pure trivial
  have hkind : Gives G (Resolving.optional (Invocation.resolve scope) element.task)
      fun found ↦ found.map (·.kind) = element.task.map (·.kind) := by
    refine Gives.optional (fun hnone ↦ by rw [hnone]) fun task hgiven ↦ ?_
    simp only [hgiven, Option.map_some, Option.some.injEq]
    exact Gives.task scope (htask task hgiven)
  have hany {α : Type} {resolve : α → Resolving α} {given : Option α}
      (h : ∀ value, given = some value → Gives G (resolve value) fun _ ↦ True) :
      Gives G (Resolving.optional resolve given) fun _ ↦ True :=
    Gives.optional (fun _ ↦ trivial) h
  unfold Element.resolve
  refine (hany fun _ h ↦ Gives.text scope (hname _ h)).bind fun _ _ ↦ ?_
  refine (Gives.list scope hguards).bind fun _ _ ↦ ?_
  refine (hany fun _ h ↦ Gives.text scope (hregister _ h)).bind fun _ _ ↦ ?_
  refine henvironment.bind fun _ _ ↦ ?_
  refine (hany fun _ h ↦ Gives.loop scope (hloop _ h)).bind fun _ _ ↦ ?_
  exact hkind.bind fun task hsame ↦ Gives.pure ⟨rfl, rfl, hsame⟩

namespace Tree

theorem ancestors_gives (steps : Nat) (parent : Option Slot) :
    Gives G (tree.ancestors steps parent)
      fun above ↦ ∀ element ∈ above, ∃ slot, tree.get? slot = some element := by
  induction steps generalizing parent with
  | zero => cases parent <;> exact Gives.pure nofun
  | succ steps ih =>
    cases parent with
    | none => exact Gives.pure nofun
    | some slot =>
      rw [Tree.ancestors]
      refine Gives.enterSlot.bind fun isNew _ ↦ ?_
      cases isNew with
      | false => exact Gives.pure nofun
      | true =>
        simp only [if_true]
        cases hget : tree.get? slot with
        | none => exact Gives.pure nofun
        | some element =>
          refine (ih element.parent).bind fun above habove ↦ Gives.pure fun found hfound ↦ ?_
          rcases List.mem_cons.mp hfound with rfl | hmem
          · exact ⟨slot, hget⟩
          · exact habove found hmem

theorem overlay_gives (environment : Environment) {elements : List Element}
    (hG : ∀ element ∈ elements, ∀ text ∈ element.environment.entries.map (·.2), G text) :
    Gives G (overlay scope environment elements) fun _ ↦ True := by
  induction elements generalizing environment with
  | nil => exact Gives.pure trivial
  | cons element rest ih =>
    have hown := Gives.entries scope (hG element List.mem_cons_self)
    exact hown.bind fun own _ ↦ ih _ fun found hfound ↦ hG found (List.mem_cons_of_mem _ hfound)

theorem resolveEnvironment_gives (hG : ∀ text ∈ tree.leaves, G text) (slot : Slot)
    (own : Environment) :
    Gives G (tree.resolveEnvironment scope slot own) fun _ ↦ True := by
  have hmerge : ∀ above : List Element,
      (∀ element ∈ above, ∃ slot, tree.get? slot = some element) →
      Gives G (do
        let inherited ← overlay scope ∅ above.reverse
        return inherited.insertMany own.entries) fun _ ↦ True := by
    intro above habove
    refine (overlay_gives ∅ fun element hmem text htext ↦ ?_).bind fun _ _ ↦ Gives.pure trivial
    obtain ⟨slot, hget⟩ := habove element (List.mem_reverse.mp hmem)
    apply hG text
    apply Tree.mem_leaves hget
    simp only [Element.leaves, List.mem_append, htext, true_or, or_true]
  unfold Tree.resolveEnvironment
  refine Gives.enterSlot.bind fun isNew _ ↦ ?_
  cases isNew with
  | false => exact (Gives.pure nofun).bind hmerge
  | true => exact (ancestors_gives _ _).bind hmerge

end Tree

/-- A snapshot asks only for strings of the tree and of the element, and keeps its shape. -/
theorem Engine.snapshot_gives (scope : Scope) (hG : ∀ text ∈ tree.leaves, G text) (slot : Slot)
    {element : Element} (hleaves : ∀ text ∈ element.leaves, G text) :
    Gives G (Engine.snapshot tree slot element scope) fun found ↦ element.SameShape found.1 := by
  unfold Engine.snapshot
  refine (Element.resolve_gives hleaves).bind fun resolved hshape ↦ ?_
  split
  · exact Gives.pure hshape
  · exact (Tree.resolveEnvironment_gives hG slot _).bind fun _ _ ↦ Gives.pure hshape

end Playbook
