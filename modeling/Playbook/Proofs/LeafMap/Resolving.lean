import Playbook.Proofs.Inheritance
import Playbook.Proofs.LeafMap.Basic
import Playbook.Proofs.Sharing

/-!
# Resolving maps the leaves

In a value in which no shared part stands twice, resolving puts for every leaf what the resolver
makes of it and keeps everything else. It asks for the leaves one after another, each once, and it
stops at the first that the resolver has no answer to. The order in which the entries of a hash map
are walked decides about nothing but the order of the questions.
-/

namespace Playbook

/-- What the resolver makes of a text; the text itself where it fails. -/
def Scope.answer (scope : Scope) (text : String) : String :=
  scope.resolver.answer text scope.facts

namespace Resolving

variable {scope : Scope} {α β : Type}

/-! ## Values without shared parts -/

/-- Whatever came before, the computation gives this value unless it fails. -/
def Becomes (resolve : Resolving α) (value : α) : Prop :=
  ∀ r found, (resolve.run r).1 = .ok found → found = value

namespace Becomes

protected theorem pure (value : α) : Becomes (Pure.pure value) value := by
  intro r found hfound
  exact (Except.ok.inj hfound).symm

protected theorem bind {resolve : Resolving α} {next : α → Resolving β} {value : α} {value' : β}
    (h : Becomes resolve value) (hnext : Becomes (next value) value') :
    Becomes (resolve >>= next) value' := by
  intro r found hfound
  rcases hrun : resolve.run r with ⟨result, r'⟩
  have hresult := h r
  rw [hrun] at hresult
  cases result with
  | error error =>
    rw [run_bind_of_error hrun] at hfound
    cases hfound
  | ok first =>
    rw [run_bind_of_ok hrun, hresult first rfl] at hfound
    exact hnext r' found hfound

/-- The value that is given may be rebuilt. -/
theorem bind_pure {resolve : Resolving α} {build : α → β} {value : α} (h : Becomes resolve value) :
    Becomes (resolve >>= fun found ↦ Pure.pure (build found)) (build value) :=
  h.bind (Becomes.pure (build value))

theorem text (scope : Scope) (template : String) :
    Becomes (Resolving.text scope template) (scope.answer template) := by
  intro r found hfound
  rw [Yields.text scope template r] at hfound
  have hanswer : scope.resolver template scope.facts = .ok found := hfound
  rw [Scope.answer, Resolver.answer, hanswer]

theorem optional {resolve : α → Resolving α} {build : α → α}
    (h : ∀ value, Becomes (resolve value) (build value)) (given : Option α) :
    Becomes (Resolving.optional resolve given) (given.map build) := by
  cases given with
  | none => exact Becomes.pure none
  | some value => exact (h value).bind_pure

theorem list (scope : Scope) (templates : List String) :
    Becomes (Resolving.list (Resolving.text scope) templates) (templates.map scope.answer) := by
  induction templates with
  | nil => exact Becomes.pure []
  | cons template rest ih => exact (text scope template).bind ih.bind_pure

theorem entries (scope : Scope) (entries : List (String × String)) :
    Becomes (Resolving.entries (Resolving.text scope) entries)
      (entries.map fun entry ↦ (entry.1, scope.answer entry.2)) := by
  induction entries with
  | nil => exact Becomes.pure []
  | cons entry rest ih => exact (text scope entry.2).bind ih.bind_pure

mutual

theorem json (scope : Scope) : (value : Json) →
    Becomes (value.resolve scope) (value.mapLeaves scope.answer)
  | .str template => (text scope template).bind_pure
  | .arr items => (jsonItems scope items).bind_pure
  | .obj fields => (jsonFields scope fields).bind_pure
  | .null | .bool _ | .int _ | .float _ => Becomes.pure _

theorem jsonItems (scope : Scope) : (items : List Json) →
    Becomes (Json.resolveItems scope items) (Json.mapLeavesOfItems scope.answer items)
  | [] => Becomes.pure []
  | item :: rest => (json scope item).bind (jsonItems scope rest).bind_pure

theorem jsonFields (scope : Scope) : (fields : List (String × Json)) →
    Becomes (Json.resolveFields scope fields) (Json.mapLeavesOfFields scope.answer fields)
  | [] => Becomes.pure []
  | (_, value) :: rest => (json scope value).bind (jsonFields scope rest).bind_pure

end

theorem loop (scope : Scope) (spec : LoopSpec) :
    Becomes (spec.resolve scope) (spec.mapLeaves scope.answer) := by
  cases spec with
  | var template => exact (text scope template).bind_pure
  | items values => exact (jsonItems scope values).bind_pure

theorem task (scope : Scope) (given : Invocation) :
    Becomes (given.resolve scope) (given.mapLeaves scope.answer) :=
  (jsonFields scope given.config).bind_pure

/-- The new variables come in key order, as the old ones. -/
theorem environment (scope : Scope) (environment : Environment) :
    Becomes (environment.resolve scope) (environment.mapValues scope.answer) := by
  have hentries : Becomes (environment.resolve scope) (SortedMap.ofList _) :=
    (entries scope environment.entries).bind_pure
  have hmap : SortedMap.ofList (environment.entries.map fun entry ↦
      (entry.1, scope.answer entry.2)) = environment.mapValues scope.answer :=
    SortedMap.ofList_entries (environment.mapValues scope.answer)
  rwa [hmap] at hentries

theorem element (scope : Scope) (element : Element) :
    Becomes (element.resolve scope) (element.mapLeaves scope.answer) :=
  (optional (text scope) element.name).bind <| (list scope element.guards).bind <|
    (optional (text scope) element.register).bind <|
    (environment scope element.environment).bind <|
    (optional (loop scope) element.loop).bind (optional (task scope) element.task).bind_pure

end Becomes

/-! ## Values with shared parts -/

/-- If none of the parts has been met, the computation asks for the texts in order, as far as there
are answers, and gives the value if there are answers to all; and it meets none but these parts. -/
def Replaces (scope : Scope) (parts : List Nat) (texts : List String) (resolve : Resolving α)
    (value : α) : Prop :=
  ∀ slots known calls, (∀ part ∈ parts, part ∉ known) → ∃ asked met result,
    Told scope texts asked result ∧ (∀ found, result = .ok found → found = value) ∧
      met ⊆ parts ∧
      resolve.run ⟨slots, known, calls⟩ = (result, ⟨slots, met ++ known, asked.reverse ++ calls⟩)

namespace Replaces

variable {parts parts' : List Nat} {texts texts' : List String} {resolve : Resolving α} {value : α}

theorem of_recites (h : Recites scope texts resolve) (hvalue : Becomes resolve value) :
    Replaces scope [] texts resolve value := by
  intro slots known calls _
  obtain ⟨asked, result, htold, hyields⟩ := h
  have hrun := hyields ⟨slots, known, calls⟩
  refine ⟨asked, [], result, htold, fun found hfound ↦ ?_, List.nil_subset _, hrun⟩
  apply hvalue ⟨slots, known, calls⟩
  rw [hrun, hfound]

protected theorem pure (value : α) : Replaces scope [] [] (Pure.pure value) value :=
  of_recites (Recites.pure value) (Becomes.pure value)

protected theorem bind {next : α → Resolving β} {value' : β}
    (h : Replaces scope parts texts resolve value)
    (hnext : Replaces scope parts' texts' (next value) value') (hnodup : (parts ++ parts').Nodup) :
    Replaces scope (parts ++ parts') (texts ++ texts') (resolve >>= next) value' := by
  intro slots known calls hknown
  have hbefore : ∀ part ∈ parts, part ∉ known := fun part hmem ↦
    hknown part (List.mem_append_left _ hmem)
  obtain ⟨asked, met, result, htold, hvalue, hmet, hrun⟩ := h slots known calls hbefore
  cases result with
  | error error =>
    exact ⟨asked, met, .error error, htold.stop texts', nofun,
      List.subset_append_of_subset_left _ hmet, run_bind_of_error hrun⟩
  | ok first =>
    obtain rfl := hvalue first rfl
    -- The parts of the rest are new still, since none of them is among those met so far.
    have hafter : ∀ part ∈ parts', part ∉ met ++ known := by
      intro part hmem hfound
      rcases List.mem_append.mp hfound with hmet' | hold
      · exact (List.nodup_append.mp hnodup).2.2 part (hmet hmet') part hmem rfl
      · exact hknown part (List.mem_append_right _ hmem) hold
    obtain ⟨later, met', final, htold', hvalue', hmet', hrun'⟩ :=
      hnext slots (met ++ known) (asked.reverse ++ calls) hafter
    refine ⟨asked ++ later, met' ++ met, final, htold.append htold', hvalue', ?_, ?_⟩
    · exact List.append_subset.mpr ⟨List.subset_append_of_subset_right _ hmet',
        List.subset_append_of_subset_left _ hmet⟩
    · rw [run_bind_of_ok hrun, hrun', List.reverse_append, List.append_assoc, List.append_assoc]

/-- The value that is given may be rebuilt. -/
theorem bind_pure {build : α → β} (h : Replaces scope parts texts resolve value)
    (hnodup : parts.Nodup) :
    Replaces scope parts texts (resolve >>= fun found ↦ Pure.pure (build found)) (build value) := by
  have hnodup' : (parts ++ []).Nodup := by rwa [List.append_nil]
  have hall : Replaces scope (parts ++ []) (texts ++ [])
      (resolve >>= fun found ↦ Pure.pure (build found)) (build value) :=
    h.bind (Replaces.pure (build value)) hnodup'
  rwa [List.append_nil, List.append_nil] at hall

theorem shared {part : Nat} {fresh : Bool} {content content' : Composite}
    (h : Replaces scope parts texts (content.resolve scope) content')
    (hnodup : (part :: parts).Nodup) :
    Replaces scope (part :: parts) texts ((Composite.shared part fresh content).resolve scope)
      (.shared part true content') := by
  intro slots known calls hknown
  have henter := Composite.enterShared_run part ⟨slots, known, calls⟩
  rw [if_neg (hknown part List.mem_cons_self)] at henter
  have hinside : ∀ found ∈ parts, found ∉ part :: known := by
    intro found hmem hfound
    rcases List.mem_cons.mp hfound with rfl | hold
    · exact (List.nodup_cons.mp hnodup).1 hmem
    · exact hknown found (List.mem_cons_of_mem _ hmem) hold
  have hbuilt : Replaces scope parts texts (do return .shared part true (← content.resolve scope))
      (Composite.shared part true content') := h.bind_pure (List.nodup_cons.mp hnodup).2
  obtain ⟨asked, met, result, htold, hvalue, hmet, hrun⟩ :=
    hbuilt slots (part :: known) calls hinside
  refine ⟨asked, met ++ [part], result, htold, hvalue, ?_, ?_⟩
  · exact List.append_subset.mpr ⟨List.subset_cons_of_subset _ hmet,
      List.cons_subset.mpr ⟨List.mem_cons_self, List.nil_subset _⟩⟩
  · rw [Composite.resolve, run_bind_of_ok henter, List.append_assoc]
    exact hrun

end Replaces

end Resolving

open Resolving (Becomes Recites Replaces Told)

namespace Composite

variable (scope : Scope)

mutual

theorem resolve_replaces : (value : Composite) → value.parts.Nodup →
    Replaces scope value.parts value.leaves (value.resolve scope) (value.mapLeaves scope.answer)
  | .text template, _ =>
    .of_recites (Recites.text scope template).bind_pure (Becomes.text scope template).bind_pure
  | .scalar _, _ | .absent, _ => Replaces.pure _
  | .present content, h | .boxed content, h | .invocation _ content, h =>
    (resolve_replaces content h).bind_pure h
  | .seq items, h => (resolveItems_replaces items h).bind_pure h
  | .sorted entries, h | .unordered entries, h => (resolveEntries_replaces entries h).bind_pure h
  | .json value, _ =>
    .of_recites (Recites.json scope value).bind_pure (Becomes.json scope value).bind_pure
  | .object fields, _ =>
    .of_recites (Recites.jsonFields scope fields).bind_pure
      (Becomes.jsonFields scope fields).bind_pure
  | .loop spec, _ =>
    .of_recites (Recites.loop scope spec).bind_pure (Becomes.loop scope spec).bind_pure
  | .element rest task, h => by
    have hrest : Replaces scope [] { rest with task := none }.leaves
        ({ rest with task := none }.resolve scope)
        ({ rest with task := none }.mapLeaves scope.answer) :=
      .of_recites (Recites.element scope _) (Becomes.element scope _)
    exact hrest.bind ((resolve_replaces task h).bind_pure h) h
  | .shared _ _ content, h => (resolve_replaces content (List.nodup_cons.mp h).2).shared h

theorem resolveItems_replaces : (items : List Composite) → (partsOfItems items).Nodup →
    Replaces scope (partsOfItems items) (leavesOfItems items) (resolveItems scope items)
      (mapLeavesOfItems scope.answer items)
  | [], _ => Replaces.pure []
  | item :: rest, h => by
    obtain ⟨hitem, hrest, -⟩ := List.nodup_append.mp h
    exact (resolve_replaces item hitem).bind ((resolveItems_replaces rest hrest).bind_pure hrest) h

theorem resolveEntries_replaces : (entries : List (String × Composite)) →
    (partsOfEntries entries).Nodup →
    Replaces scope (partsOfEntries entries) (leavesOfEntries entries)
      (resolveEntries scope entries) (mapLeavesOfEntries scope.answer entries)
  | [], _ => Replaces.pure []
  | (_, value) :: rest, h => by
    obtain ⟨hvalue, hrest, -⟩ := List.nodup_append.mp h
    exact (resolve_replaces value hvalue).bind
      ((resolveEntries_replaces rest hrest).bind_pure hrest) h

end

variable {scope} {value : Composite}

/-- A resolution of its own has met no part yet. -/
theorem run_told (hparts : value.parts.Nodup) (calls : List String) :
    ∃ asked, Told scope value.leaves asked (run scope value (.start calls)).1 ∧
      (∀ found, (run scope value (.start calls)).1 = .ok found →
        found = value.mapLeaves scope.answer) ∧
      (run scope value (.start calls)).2.calls = asked.reverse ++ calls := by
  obtain ⟨asked, met, result, htold, hvalue, -, hrun⟩ :=
    resolve_replaces scope value hparts [] [] calls fun _ _ ↦ List.not_mem_nil
  have hstart : run scope value (.start calls) = _ := hrun
  rw [hstart]
  exact ⟨asked, htold, hvalue, rfl⟩

theorem run_succeeds_iff (hparts : value.parts.Nodup) (calls : List String) :
    (∃ result, (run scope value (.start calls)).1 = .ok result) ↔
      ∀ text ∈ value.leaves, scope.resolver.Resolves scope.facts text := by
  obtain ⟨asked, htold, -, -⟩ := run_told hparts calls
  cases hresult : (run scope value (.start calls)).1 with
  | ok result =>
    rw [hresult] at htold
    exact iff_of_true ⟨result, rfl⟩ htold.2
  | error error =>
    rw [hresult] at htold
    obtain ⟨before, text, after, hleaves, -, -, hfails⟩ := htold
    refine iff_of_false nofun fun hall ↦ ?_
    obtain ⟨answer, hanswer⟩ := hall text (by simp [hleaves])
    cases hfails.symm.trans hanswer

/-- If no shared part stands twice in a value, a resolution of its own succeeds if and only if the
resolver has an answer to every leaf. The result is the value with the answers for its leaves, and
each leaf was asked for once, in order; and a resolution that fails asked for the leaves up to the
first without an answer, and gives the error of that one. Walking hash maps in another order makes
no difference to success, and the results then differ in that order only. -/
theorem run_leafwise (scope : Scope) (value : Composite) (hparts : value.parts.Nodup)
    (calls : List String) :
    ((∃ result, (run scope value (.start calls)).1 = .ok result) ↔
      ∀ text ∈ value.leaves, scope.resolver.Resolves scope.facts text) ∧
    (∀ result, (run scope value (.start calls)).1 = .ok result →
      (∀ text ∈ value.leaves, scope.resolver text scope.facts = .ok (scope.answer text)) ∧
      result = value.mapLeaves scope.answer ∧
      result.leaves = value.leaves.map scope.answer ∧ result.bare = value.bare ∧
      (run scope value (.start calls)).2.calls = value.leaves.reverse ++ calls) ∧
    (∀ error, (run scope value (.start calls)).1 = .error error →
      ∃ before text after, value.leaves = before ++ text :: after ∧
        (∀ found ∈ before, scope.resolver.Resolves scope.facts found) ∧
        scope.resolver text scope.facts = .error error ∧
        (run scope value (.start calls)).2.calls = (before ++ [text]).reverse ++ calls) ∧
    ∀ other, value.Reordered other →
      ((∃ result, (run scope other (.start calls)).1 = .ok result) ↔
        ∃ result, (run scope value (.start calls)).1 = .ok result) ∧
      ∀ result result', (run scope value (.start calls)).1 = .ok result →
        (run scope other (.start calls)).1 = .ok result' → result.Reordered result' := by
  obtain ⟨asked, htold, hvalue, hcalls⟩ := run_told hparts calls
  refine ⟨run_succeeds_iff hparts calls, ?_, ?_, ?_⟩
  · intro result hresult
    rw [hresult] at htold
    obtain ⟨rfl, hanswers⟩ := htold
    obtain rfl := hvalue result hresult
    refine ⟨fun text hmem ↦ ?_, rfl, leaves_mapLeaves value, bare_mapLeaves value, hcalls⟩
    obtain ⟨answer, hanswer⟩ := hanswers text hmem
    rw [Scope.answer, Resolver.answer, hanswer]
  · intro error herror
    rw [herror] at htold
    obtain ⟨before, text, after, hleaves, rfl, hbefore, hfails⟩ := htold
    exact ⟨before, text, after, hleaves, hbefore, hfails, hcalls⟩
  · intro other hother
    have hparts' : other.parts.Nodup := hother.parts_perm.nodup_iff.mp hparts
    obtain ⟨-, -, hvalue', -⟩ := run_told hparts' calls
    constructor
    · rw [run_succeeds_iff hparts calls, run_succeeds_iff hparts' calls]
      exact forall_congr' fun text ↦ by rw [hother.leaves_perm.mem_iff]
    · intro result result' hresult hresult'
      rw [hvalue result hresult, hvalue' result' hresult']
      exact hother.mapLeaves

/-- A hash map with the given entries beside an element; a shared part inside of each. -/
def nestedValue (entries : List (String × Composite)) : Composite :=
  let config := .object [("b", .arr [.str "d", .int 1]), ("c", .null)]
  let rest : Element := { Element.bare (some 0) with
    name := some "n", guards := ["g"], register := some "r", environment := .ofList [("K", "v")]
    loop := some (.items [.str "i", .obj [("b", .str "j")]]) }
  .seq [.unordered entries, .element rest (.present (.invocation "b" (.shared 1 false config)))]

theorem run_leafwise_nested :
    let scope : Scope := ⟨unansweredResolver, ∅⟩
    let entries := [("b", .shared 0 false (.text "x")), ("y", .boxed (.json (.str "y")))]
    (nestedValue entries).parts.Nodup ∧
      (nestedValue entries).Reordered (nestedValue entries.reverse) ∧
      (run scope (nestedValue entries) (.start [])).2.calls =
        ["x", "y", "n", "g", "r", "v", "i", "j", "d"].reverse ∧
      ∃ result result', (run scope (nestedValue entries) (.start [])).1 = .ok result ∧
        (run scope (nestedValue entries.reverse) (.start [])).1 = .ok result' ∧
        result.leaves = ["xx", "yy", "nn", "gg", "rr", "vv", "ii", "jj", "dd"] ∧
        result.Reordered result' := by
  intro scope entries
  have hparts : (nestedValue entries).parts.Nodup := by decide
  have hother : (nestedValue entries).Reordered (nestedValue entries.reverse) :=
    .item [] _ (.walked (List.reverse_perm entries).symm)
  obtain ⟨hsucceeds, hresult, -, hreordered⟩ :=
    run_leafwise scope (nestedValue entries) hparts []
  obtain ⟨hsucceeds', hresults⟩ := hreordered _ hother
  have hanswers : ∀ text ∈ (nestedValue entries).leaves,
      scope.resolver.Resolves scope.facts text := by
    intro text hmem
    have hne : text ≠ "b" := by
      rintro rfl
      revert hmem
      decide
    exact ⟨text ++ text, if_neg hne⟩
  obtain ⟨result, hrun⟩ := hsucceeds.mpr hanswers
  obtain ⟨result', hrun'⟩ := hsucceeds'.mpr ⟨result, hrun⟩
  obtain ⟨-, -, hleaves, -, hcalls⟩ := hresult result hrun
  exact ⟨hparts, hother, hcalls, result, result', hrun, hrun', hleaves,
    hresults result result' hrun hrun'⟩

end Composite

end Playbook
