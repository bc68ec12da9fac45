import Playbook.Proofs.Outline.Relocation
import Playbook.Proofs.Refinement
import Playbook.Template.Engine

/-!
# One playbook after another

A playbook that consists of two playbooks runs like the first and then, if that succeeded, like the
second from the session that the first left. It does so only if both can be read: otherwise nothing
of it runs, however much of the first playbook could have run by itself.

The elements of the second playbook stand at other slots and at other places of the document when
the first one is before them; outlines know nothing of either.
-/

namespace Playbook

open Engine
open Yaml (Node)

namespace Outline

variable {registry : Registry} {location : Location}

/-- Sequences are read one after another. -/
theorem readItems_append (position : Nat) (first second : List Node) :
    readItems registry location position (first ++ second) = (do
      let outlines ← readItems registry location position first
      let others ← readItems registry location (position + first.length) second
      return outlines ++ others) := by
  induction first generalizing position with
  | nil =>
    have hnil : readItems registry location position [] = .ok [] := rfl
    rw [hnil]
    exact (bind_pure _).symm
  | cons node rest ih =>
    have hlength : position + (node :: rest).length = position + 1 + rest.length := by
      rw [List.length_cons]
      omega
    rw [List.cons_append, readItems, readItems, ih, hlength]
    cases read registry (location.item position) node.kind node with
    | error error => rfl
    | ok outline =>
      dsimp only
      cases readItems registry location (position + 1) rest with
      | error error => rfl
      | ok outlines =>
        cases readItems registry location (position + 1 + rest.length) second <;> rfl

/-- What can be read at one place can be read at any other. -/
theorem read_elsewhere {found : Yaml.Kind} {node : Node} {outline : Outline}
    (h : read registry location found node = .ok outline) (place : Location) :
    read registry place found node = .ok outline := by
  have hroot : read registry [] found node = .ok outline := by
    have hbelow := read_below location registry found [] node
    rw [List.append_nil, h] at hbelow
    cases hread : read registry [] found node with
    | error error =>
      rw [hread] at hbelow
      cases hbelow
    | ok outline =>
      rw [hread] at hbelow
      exact hbelow.symm
  have hbelow := read_below place registry found [] node
  rw [List.append_nil, hroot] at hbelow
  exact hbelow

theorem readItems_elsewhere {position : Nat} {nodes : List Node} {outlines : List Outline}
    (h : readItems registry location position nodes = .ok outlines) (place : Location)
    (start : Nat) : readItems registry place start nodes = .ok outlines := by
  induction nodes generalizing position start outlines with
  | nil => exact h
  | cons node rest ih =>
    rw [readItems] at h
    cases hread : read registry (location.item position) node.kind node with
    | error error =>
      rw [hread] at h
      cases h
    | ok outline =>
      rw [hread] at h
      obtain ⟨others, hothers, rfl⟩ := map_eq_ok.mp h
      rw [readItems, read_elsewhere hread, ih hothers]
      rfl

/-- Two sequences can be read one after another when each can be read by itself. -/
theorem readItems_append_eq_ok {first second : List Node} {all : List Outline} :
    readItems registry location 0 (first ++ second) = .ok all ↔
      ∃ outlines others, readItems registry location 0 first = .ok outlines ∧
        readItems registry location 0 second = .ok others ∧ outlines ++ others = all := by
  rw [readItems_append]
  constructor
  · intro h
    cases hfirst : readItems registry location 0 first with
    | error error =>
      rw [hfirst] at h
      cases h
    | ok outlines =>
      cases hsecond : readItems registry location (0 + first.length) second with
      | error error =>
        rw [hfirst, hsecond] at h
        cases h
      | ok others =>
        rw [hfirst, hsecond] at h
        exact ⟨outlines, others, rfl, readItems_elsewhere hsecond location 0, Except.ok.inj h⟩
  · rintro ⟨outlines, others, hfirst, hsecond, rfl⟩
    rw [hfirst, readItems_elsewhere hsecond location (0 + first.length)]
    rfl

end Outline

variable {context : Context}

theorem Interpreter.interpretAll_append (runFile : RunFile) (spans : List String)
    (outer : List Environment) (first second : List Outline) :
    interpretAll context runFile spans outer (first ++ second) = (do
      interpretAll context runFile spans outer first
      interpretAll context runFile spans outer second) := by
  induction first with
  | nil => rfl
  | cons outline rest ih =>
    rw [List.cons_append, interpretAll, interpretAll, ih, bind_assoc]

/-- A sequence of elements is read and then interpreted. -/
theorem executeNode_of_ok {nodes : List Node} {outlines : List Outline}
    (h : Outline.readItems context.registry [] 0 nodes = .ok outlines) :
    executeNode context (.seq nodes) =
      Interpreter.interpretAll context (runFile context) [] [] outlines := by
  have hnode : Outline.ofNode context.registry (.seq nodes) = .ok outlines := h
  rw [executeNode, Outline.ofNode_eq_tree, hnode]
  exact runTree_eq context (runFile context) [] outlines

theorem executeNode_of_error {nodes : List Node} {error : ParseError}
    (h : Outline.readItems context.registry [] 0 nodes = .error error) :
    executeNode context (.seq nodes) = throw (.parse error) := by
  have hnode : Outline.ofNode context.registry (.seq nodes) = .error error := h
  rw [executeNode, Outline.ofNode_eq_tree, hnode]
  rfl

theorem ofNode_seq {registry : Registry} {nodes : List Node} :
    Document.ofNode registry (.seq nodes) =
      (Outline.readItems registry [] 0 nodes).map Outline.tree :=
  Outline.ofNode_eq_tree registry (.seq nodes)

/-- Running playbooks turns concatenation into one run after another; the result, everything in the
session and thus the steps of tasks and the calls of the resolver are the same. If one of the two
playbooks cannot be read, the concatenation is refused and leaves every session as it was. -/
theorem executeNode_append (context : Context) (first second : List Node) :
    ((∃ tree, Document.ofNode context.registry (.seq first) = .ok tree) →
      (∃ tree, Document.ofNode context.registry (.seq second) = .ok tree) →
      executeNode context (.seq (first ++ second)) = (do
        executeNode context (.seq first)
        executeNode context (.seq second))) ∧
    ((∃ error, Document.ofNode context.registry (.seq first) = .error error) ∨
      (∃ error, Document.ofNode context.registry (.seq second) = .error error) →
      ∃ error, ∀ s, (executeNode context (.seq (first ++ second))).run s =
        (.error (.parse error), s)) := by
  rw [ofNode_seq, ofNode_seq]
  constructor
  · rintro ⟨_, hfirst⟩ ⟨_, hsecond⟩
    obtain ⟨outlines, hfirst, -⟩ := Outline.map_eq_ok.mp hfirst
    obtain ⟨others, hsecond, -⟩ := Outline.map_eq_ok.mp hsecond
    have hall := Outline.readItems_append_eq_ok.mpr ⟨outlines, others, hfirst, hsecond, rfl⟩
    rw [executeNode_of_ok hall, executeNode_of_ok hfirst, executeNode_of_ok hsecond]
    exact Interpreter.interpretAll_append _ _ _ _ _
  · intro hfails
    cases hall : Outline.readItems context.registry [] 0 (first ++ second) with
    | error error =>
      refine ⟨error, fun s ↦ ?_⟩
      rw [executeNode_of_error hall]
      rfl
    | ok outlines =>
      obtain ⟨outlines, others, hfirst, hsecond, -⟩ := Outline.readItems_append_eq_ok.mp hall
      rw [hfirst, hsecond] at hfails
      rcases hfails with ⟨error, herror⟩ | ⟨error, herror⟩ <;> cases herror

/-- An element that sets a fact. -/
def factNode (name value : String) : Node :=
  .map [(.str "set_fact", .map [(.str name, .str value)])]

theorem executeNode_append_facts : ∃ registry, Registry.ofKinds TaskKind.standard = .ok registry ∧
    executeNode ⟨.standard, registry, Template.resolver, ∅⟩
        (.seq ([factNode "a" "1"] ++ [factNode "b" "\x7b\x7b a \x7d\x7d"])) = (do
      executeNode ⟨.standard, registry, Template.resolver, ∅⟩ (.seq [factNode "a" "1"])
      executeNode ⟨.standard, registry, Template.resolver, ∅⟩
        (.seq [factNode "b" "\x7b\x7b a \x7d\x7d"])) ∧
    ∃ error, ∀ s, (executeNode ⟨.standard, registry, Template.resolver, ∅⟩
      (.seq ([factNode "a" "1"] ++ [.map [(.str "bogus", .map [])]]))).run s =
        (.error (.parse error), s) := by
  have hread : ∃ registry tree next error, Registry.ofKinds TaskKind.standard = .ok registry ∧
      Document.ofNode registry (.seq [factNode "a" "1"]) = .ok tree ∧
      Document.ofNode registry (.seq [factNode "b" "\x7b\x7b a \x7d\x7d"]) = .ok next ∧
      Document.ofNode registry (.seq [.map [(.str "bogus", .map [])]]) = .error error :=
    ⟨_, _, _, _, rfl, rfl, rfl, rfl⟩
  obtain ⟨registry, tree, next, error, hregistry, hfirst, hsecond, hrefused⟩ := hread
  refine ⟨registry, hregistry, ?_, ?_⟩
  · exact (executeNode_append _ _ _).1 ⟨tree, hfirst⟩ ⟨next, hsecond⟩
  · exact (executeNode_append _ _ _).2 (.inr ⟨error, hrefused⟩)

end Playbook
