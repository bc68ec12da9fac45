import Playbook.Proofs.Recital

/-!
# What a resolution tells

A resolution of a value settles its strings: if it gives a value, the resolver has an answer to each
of them, and if it fails, its error is what the resolver says to one of them. All is said under the
facts of the resolution, whatever was met and asked before.
-/

namespace Playbook

namespace Resolving

variable {scope : Scope} {α β : Type} {G G' : String → Prop} {Q : α → Prop} {Q' : β → Prop}

/-- A resolution fails only with what the resolver says to one of the strings of `G`, and a value is
as `Q` says. -/
def Blames (scope : Scope) (G : String → Prop) (resolve : Resolving α) (Q : α → Prop) : Prop :=
  ∀ r, match (resolve.run r).1 with
    | .ok value => Q value
    | .error error => ∃ text, G text ∧ scope.resolver text scope.facts = .error error

namespace Blames

protected theorem pure {value : α} (h : Q value) : Blames scope G (Pure.pure value) Q :=
  fun _ ↦ h

protected theorem bind {resolve : Resolving α} {next : α → Resolving β}
    (h : Blames scope G resolve Q) (hnext : ∀ value, Q value → Blames scope G (next value) Q') :
    Blames scope G (resolve >>= next) Q' := by
  intro r
  have hfirst := h r
  rcases hrun : resolve.run r with ⟨result, r'⟩
  rw [hrun] at hfirst
  cases result with
  | error error =>
    rw [run_bind_of_error hrun]
    exact hfirst
  | ok value =>
    rw [run_bind_of_ok hrun]
    exact hnext value hfirst r'

theorem imp {resolve : Resolving α} {P : α → Prop} (h : Blames scope G resolve P)
    (hG : ∀ text, G text → G' text) (hQ : ∀ value, P value → Q value) :
    Blames scope G' resolve Q := by
  intro r
  have hresult := h r
  cases hrun : (resolve.run r).1 with
  | ok value =>
    rw [hrun] at hresult
    exact hQ value hresult
  | error error =>
    rw [hrun] at hresult
    obtain ⟨text, htext, hfails⟩ := hresult
    exact ⟨text, hG text htext, hfails⟩

theorem enterSlot (slot : Slot) : Blames scope G (Resolving.enterSlot slot) fun _ ↦ True := by
  intro r
  rw [Resolving.enterSlot_run]
  by_cases hmet : slot ∈ r.slots
  · rw [if_pos hmet]
    exact trivial
  · rw [if_neg hmet]
    exact trivial

end Blames

/-- A resolution tells of these strings that they can be resolved, or fails because of one. -/
abbrev Settles (scope : Scope) (texts : List String) (resolve : Resolving α) : Prop :=
  Blames scope (· ∈ texts) resolve fun _ ↦ ∀ text ∈ texts, scope.resolver.Resolves scope.facts text

/-- Reciting strings settles them. -/
theorem Recites.settles {texts : List String} {resolve : Resolving α}
    (h : Recites scope texts resolve) : Settles scope texts resolve := by
  obtain ⟨asked, result, htold, hrun⟩ := h
  intro r
  rw [hrun]
  cases result with
  | ok value => exact htold.2
  | error error =>
    obtain ⟨before, text, after, rfl, -, -, hfails⟩ := htold
    exact ⟨text, List.mem_append_right before List.mem_cons_self, hfails⟩

end Resolving

open Resolving

/-! ## Where a string stands -/

/-- The parts of an element that hold strings. -/
inductive Element.Part where
  | name
  | guard
  | register
  | variable
  | source
  | config
  deriving DecidableEq

def Element.strings (element : Element) : Part → List String
  | .name => element.name.toList
  | .guard => element.guards
  | .register => element.register.toList
  | .variable => element.environment.entries.map (·.2)
  | .source => element.loop.elim [] LoopSpec.leaves
  | .config => element.task.elim [] Invocation.leaves

theorem Element.mem_leaves {element : Element} {text : String} :
    text ∈ element.leaves ↔ ∃ part, text ∈ element.strings part := by
  constructor
  · intro h
    simp only [Element.leaves, List.mem_append] at h
    rcases h with ((((hname | hguard) | hregister) | hvariable) | hsource) | hconfig
    · exact ⟨.name, hname⟩
    · exact ⟨.guard, hguard⟩
    · exact ⟨.register, hregister⟩
    · exact ⟨.variable, hvariable⟩
    · exact ⟨.source, hsource⟩
    · exact ⟨.config, hconfig⟩
  · rintro ⟨part, h⟩
    simp only [Element.leaves, List.mem_append]
    cases part <;> simp only [Element.strings] at h <;> simp only [h, true_or, or_true]

/-! ## Why a snapshot fails -/

variable {scope : Scope} {tree : Tree} {G : String → Prop}

theorem Tree.ancestors_blames (steps : Nat) (parent : Option Slot) :
    Blames scope G (tree.ancestors steps parent)
      fun above ↦ ∀ element ∈ above, ∃ slot, tree.get? slot = some element := by
  induction steps generalizing parent with
  | zero => cases parent <;> exact Blames.pure nofun
  | succ steps ih =>
    cases parent with
    | none => exact Blames.pure nofun
    | some slot =>
      rw [Tree.ancestors]
      refine (Blames.enterSlot slot).bind fun isNew _ ↦ ?_
      cases isNew with
      | false => exact Blames.pure nofun
      | true =>
        simp only [if_true]
        cases hget : tree.get? slot with
        | none => exact Blames.pure nofun
        | some element =>
          refine (ih element.parent).bind fun above habove ↦ Blames.pure fun found hfound ↦ ?_
          rcases List.mem_cons.mp hfound with rfl | hmem
          · exact ⟨slot, hget⟩
          · exact habove found hmem

/-- A snapshot fails because of a string of its element, or of the variables of one around it. -/
theorem Engine.snapshot_blames (scope : Scope) (tree : Tree) (slot : Slot) (element : Element) :
    Blames scope (fun text ↦ text ∈ element.leaves ∨ ∃ above found,
        tree.get? above = some found ∧ text ∈ found.strings .variable)
      (snapshot tree slot element scope) fun _ ↦ True := by
  have hoverlay (above : List Element)
      (habove : ∀ found ∈ above, ∃ slot, tree.get? slot = some found) (own : Environment) :
      Blames scope (fun text ↦ text ∈ element.leaves ∨ ∃ above found,
          tree.get? above = some found ∧ text ∈ found.strings .variable)
        (do
          let inherited ← Tree.overlay scope ∅ above.reverse
          return inherited.insertMany own.entries) fun _ ↦ True := by
    have hsettles := (Recites.overlay scope ∅ above.reverse).settles
    refine (hsettles.imp (fun text hmem ↦ ?_) fun _ hvalue ↦ hvalue).bind fun _ _ ↦
      Blames.pure trivial
    obtain ⟨found, hfound, htext⟩ := List.mem_flatMap.mp hmem
    obtain ⟨slot, hget⟩ := habove found (List.mem_reverse.mp hfound)
    exact .inr ⟨slot, found, hget, htext⟩
  unfold snapshot
  have hsettles := (Recites.element scope element).settles
  refine (hsettles.imp (fun _ ↦ .inl) fun _ hvalue ↦ hvalue).bind fun resolved _ ↦ ?_
  split
  · exact Blames.pure trivial
  · refine Blames.bind (Q := fun _ ↦ True) ?_ fun _ _ ↦ Blames.pure trivial
    unfold Tree.resolveEnvironment
    refine (Blames.enterSlot slot).bind fun isNew _ ↦ ?_
    cases isNew with
    | false => exact hoverlay [] nofun _
    | true => exact (Tree.ancestors_blames _ _).bind fun above habove ↦ hoverlay above habove _

end Playbook
