import Playbook.Proofs.Nesting
import Playbook.Template.Engine

/-!
# Lookups never fail

The engine looks up slots in the tree, the task of an element and the kind of a task. In trees that
come from documents none of these lookups fails, in however many files inside each other: the engine
never gives up on a slot or on the nesting of blocks, and no error of a run has a failed lookup
underneath. The parser in turn puts every element at a slot that it has made before.
-/

namespace Playbook

open Engine

mutual

/-- Neither the error nor anything that caused it is a failed lookup. -/
def TaskError.LookupFree : TaskError → Prop
  | .notRegistered _ | .missing => False
  | .init _ cause => cause.LookupFree
  | .include _ cause => cause.LookupFree
  | _ => True

def ExecutionError.LookupFree : ExecutionError → Prop
  | .task _ cause => cause.LookupFree
  | .blockDepth | .unknownSlot _ => False
  | _ => True

end

theorem TaskError.IsPlain.lookupFree {error : TaskError} (h : error.IsPlain) :
    error.LookupFree := by
  cases error
  case notRegistered | missing | init | «include» => exact h.elim
  all_goals exact trivial

theorem TaskError.Arises.lookupFree {P : ExecutionError → Prop} {error : TaskError}
    (h : error.Arises P) (hP : ∀ cause, P cause → cause.LookupFree) : error.LookupFree := by
  cases h with
  | plain plain => exact plain.lookupFree
  | init plain => exact plain.lookupFree
  | «include» inside => exact hP _ inside

theorem ExecutionError.Arises.lookupFree {P : ExecutionError → Prop} {error : ExecutionError}
    (h : error.Arises P) (hP : ∀ cause, P cause → cause.LookupFree) : error.LookupFree := by
  cases h with
  | resolve | loopNotArray => exact trivial
  | task arises => exact arises.lookupFree hP

theorem FileFailure.lookupFree {limit left : Nat} {error : ExecutionError}
    (h : FileFailure limit left error) : error.LookupFree := by
  induction left generalizing error with
  | zero =>
    obtain rfl := h
    exact trivial
  | succ left ih =>
    rcases h with ⟨cause, rfl⟩ | harises
    · exact trivial
    · exact harises.lookupFree fun cause hcause ↦ ih hcause

/-- The placeholder of an element is still there when its entries have been read. -/
theorem Document.size_lt_of_parseEntries {registry : Registry} {location : Location}
    {parent : Option Slot} {entries : List (Yaml.Node × Yaml.Node)} {elements after : Array Element}
    {element : Element} (h : Document.parseEntries registry location elements.size entries
      (.bare parent) (elements.push (.bare parent)) = .ok (element, after)) :
    elements.size < after.size := by
  have hlayout := Outline.parseEntries_eq_layout registry location parent elements.size entries
    Outline.blank (elements.push (.bare parent)) (Array.size_push _)
  rw [Outline.row_blank, Outline.inner_blank, Array.append_empty, h] at hlayout
  obtain ⟨outline, -, hparsed⟩ := Outline.map_eq_ok.mp hlayout.symm
  obtain ⟨-, rfl⟩ := Prod.mk.inj hparsed
  rw [Array.size_append, Array.size_push]
  omega

/-- Whatever the engine would do where a slot is not in the tree or blocks nest too deep, a run is
the same; when it fails, no lookup has failed; and an element that is parsed meanwhile, the slot of
which is the number of elements before it, has its place among the elements. -/
theorem execute_lookups (context : Context) (entry : Entry) (s : Session) :
    (∀ lost deep, (Watch.execute ⟨fun _ ↦ return (), lost, deep⟩ context entry).run s =
      (entry.execute context).run s) ∧
    (∀ error s', (entry.execute context).run s = (.error error, s') → error.LookupFree) ∧
    ∀ location parent entries (elements : Array Element) element after,
      Document.parseEntries context.registry location elements.size entries (.bare parent)
        (elements.push (.bare parent)) = .ok (element, after) → elements.size < after.size := by
  refine ⟨fun lost deep ↦ ?_, fun error s' hrun ↦ ?_, fun location parent entries elements element
    after hparse ↦ ?_⟩
  · exact (execute_counting context s.depth (fun _ _ _ _ ↦ rfl) entry).run_eq rfl
  · exact (execute_failure entry hrun).lookupFree
  · exact Document.size_lt_of_parseEntries hparse

/-- A working directory with a playbook that includes a file that is not there. -/
def danglingFiles : FileSystem :=
  (FileSystem.initial ["work"]).place "inner.yaml"
    (.file (Text.Utf8.encode "- include: {files: [gone.yaml]}\n") FileSystem.newFileMode)

theorem execute_lookups_dangling : ∃ registry error s' element after,
    Registry.ofKinds (TaskKind.standard ++ TaskKind.observers) = .ok registry ∧
      ((Entry.text "- include: {files: [inner.yaml]}\n").execute
        ⟨.standard, registry, Template.resolver, ∅⟩).run (.start .standard danglingFiles) =
        (.error error, s') ∧
      error.message = "Task 'include' failed: Include of inner.yaml failed: " ++
        "Task 'include' failed: Include of gone.yaml failed: " ++
        "Failed to read ./gone.yaml: No such file or directory (os error 2)" ∧
      error.LookupFree ∧
      Document.parseEntries registry [] 0 [(.str "block", .seq [.map [(.str "include", .map [])]])]
        (.bare none) #[.bare none] = .ok (element, after) ∧ 0 < after.size := by
  have hfails : ∃ registry element after,
      Registry.ofKinds (TaskKind.standard ++ TaskKind.observers) = .ok registry ∧
      Document.parseEntries registry [] 0 [(.str "block", .seq [.map [(.str "include", .map [])]])]
        (.bare none) #[.bare none] = .ok (element, after) ∧
      (match ((Entry.text "- include: {files: [inner.yaml]}\n").execute
          ⟨.standard, registry, Template.resolver, ∅⟩).run (.start .standard danglingFiles) with
        | (.error error, _) =>
          error.message == "Task 'include' failed: Include of inner.yaml failed: " ++
            "Task 'include' failed: Include of gone.yaml failed: " ++
            "Failed to read ./gone.yaml: No such file or directory (os error 2)"
        | _ => false) = true := by
    refine ⟨_, _, _, rfl, rfl, ?_⟩
    decide +kernel
  obtain ⟨registry, element, after, hregistry, hparse, h⟩ := hfails
  split at h
  · next error s' hrun =>
    obtain ⟨-, hlookups, hslots⟩ := execute_lookups
      ⟨.standard, registry, Template.resolver, ∅⟩ (.text "- include: {files: [inner.yaml]}\n")
      (.start .standard danglingFiles)
    exact ⟨registry, error, s', element, after, hregistry, hrun, eq_of_beq h,
      hlookups error s' hrun, hparse, hslots [] none _ #[] element after hparse⟩
  · cases h

end Playbook
