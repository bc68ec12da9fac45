import Playbook.Proofs.LeafMap.Resolving

/-!
# The variables around an element

The walk upwards from an element goes from parent to parent, whatever the links of the tree are. It
ends at a slot that is not in the tree or that was entered before, and it comes to one, because each
step enters a slot of the tree. Of the elements on the way all variables are resolved, those of the
outermost first, and of values for the same name the nearest wins.
-/

namespace Playbook

namespace Tree

/-! ## The walk upwards -/

/-- After some slots have been entered, a walk upwards from here goes through new slots of the tree,
up to the first that is not one. -/
inductive Climb (tree : Tree) : (entered : List Slot) → Option Slot → List Slot → Prop where
  | top {entered : List Slot} : Climb tree entered none []
  | outside {entered : List Slot} {slot : Slot} (outside : tree.get? slot = none) :
      Climb tree entered (some slot) []
  | again {entered : List Slot} {slot : Slot} (again : slot ∈ entered) :
      Climb tree entered (some slot) []
  | step {entered chain : List Slot} {slot : Slot} {element : Element} (new : slot ∉ entered)
      (get : tree.get? slot = some element)
      (above : Climb tree (slot :: entered) element.parent chain) :
      Climb tree entered (some slot) (slot :: chain)

/-- The slots around a slot, the nearest first. There are none if it was entered before. -/
inductive Around (tree : Tree) (entered : List Slot) (slot : Slot) : List Slot → Prop where
  | again (again : slot ∈ entered) : Around tree entered slot []
  | climb {chain : List Slot} (new : slot ∉ entered)
      (climb : tree.Climb (slot :: entered) ((tree.get? slot).bind (·.parent)) chain) :
      Around tree entered slot chain

/-- How many slots of the tree have not been entered. -/
def unentered (tree : Tree) (entered : List Slot) : Nat :=
  ((List.range tree.size).filter (· ∉ entered)).length

variable {tree : Tree} {entered chain other : List Slot} {slot : Slot} {start : Option Slot}

theorem unentered_lt (hlt : slot < tree.size) (hnew : slot ∉ entered) :
    tree.unentered (slot :: entered) < tree.unentered entered := by
  have hfilter : (List.range tree.size).filter (· ∉ slot :: entered) =
      ((List.range tree.size).filter (· ∉ entered)).filter (· ≠ slot) := by
    rw [List.filter_filter]
    apply List.filter_congr
    intro found _
    simp
  rw [unentered, unentered, hfilter]
  apply List.length_filter_lt_length_iff_exists.mpr
  refine ⟨slot, List.mem_filter.mpr ⟨List.mem_range.mpr hlt, ?_⟩, by simp⟩
  simpa using hnew

theorem unentered_le (tree : Tree) (entered : List Slot) : tree.unentered entered ≤ tree.size := by
  calc tree.unentered entered ≤ (List.range tree.size).length := List.length_filter_le _ _
    _ = tree.size := List.length_range

/-- Each step leaves fewer slots to enter, so every walk comes to an end. -/
theorem exists_climb (tree : Tree) (entered : List Slot) (start : Option Slot) :
    ∃ chain, tree.Climb entered start chain := by
  induction hcount : tree.unentered entered using Nat.strongRecOn generalizing entered start with
  | ind count ih =>
    cases start with
    | none => exact ⟨[], .top⟩
    | some slot =>
      by_cases hmet : slot ∈ entered
      · exact ⟨[], .again hmet⟩
      · cases hget : tree.get? slot with
        | none => exact ⟨[], .outside hget⟩
        | some element =>
          have hless := unentered_lt (Tree.get?_lt hget) hmet
          rw [hcount] at hless
          obtain ⟨chain, hchain⟩ := ih _ hless (slot :: entered) element.parent rfl
          exact ⟨slot :: chain, .step hmet hget hchain⟩

namespace Climb

theorem unique (h : tree.Climb entered start chain) (h' : tree.Climb entered start other) :
    other = chain := by
  induction h generalizing other with
  | top =>
    cases h'
    rfl
  | outside outside =>
    cases h' with
    | outside | again => rfl
    | step _ get _ => cases outside.symm.trans get
  | again again =>
    cases h' with
    | outside | again => rfl
    | step new _ _ => exact absurd again new
  | step new get above ih =>
    cases h' with
    | outside outside => cases outside.symm.trans get
    | again again => exact absurd again new
    | step _ get' above' =>
      obtain rfl := Option.some.inj (get.symm.trans get')
      rw [ih above']

/-- No slot is entered twice. -/
theorem nodup (h : tree.Climb entered start chain) :
    chain.Nodup ∧ ∀ above ∈ chain, above ∉ entered := by
  induction h with
  | top | outside _ | again _ => exact ⟨List.nodup_nil, nofun⟩
  | step new get above ih =>
    obtain ⟨hnodup, hnew⟩ := ih
    refine ⟨List.nodup_cons.mpr ⟨fun hmem ↦ hnew _ hmem List.mem_cons_self, hnodup⟩, ?_⟩
    intro found hfound
    rcases List.mem_cons.mp hfound with rfl | hlater
    · exact new
    · exact fun hmem ↦ hnew found hlater (List.mem_cons_of_mem _ hmem)

theorem length_le (h : tree.Climb entered start chain) : chain.length ≤ tree.unentered entered := by
  induction h with
  | top | outside _ | again _ => exact Nat.zero_le _
  | step new get above ih =>
    have hless := unentered_lt (Tree.get?_lt get) new
    rw [List.length_cons]
    omega

end Climb

namespace Around

theorem unique (h : tree.Around entered slot chain) (h' : tree.Around entered slot other) :
    other = chain := by
  cases h with
  | again again =>
    cases h' with
    | again => rfl
    | climb new _ => exact absurd again new
  | climb new climb =>
    cases h' with
    | again again => exact absurd again new
    | climb _ climb' => exact climb.unique climb'

theorem nodup (h : tree.Around entered slot chain) : (slot :: chain).Nodup := by
  cases h with
  | again => exact List.nodup_singleton slot
  | climb _ climb =>
    obtain ⟨hnodup, hnew⟩ := climb.nodup
    exact List.nodup_cons.mpr ⟨fun hmem ↦ hnew slot hmem List.mem_cons_self, hnodup⟩

end Around

theorem exists_around (tree : Tree) (entered : List Slot) (slot : Slot) :
    ∃ chain, tree.Around entered slot chain := by
  by_cases hmet : slot ∈ entered
  · exact ⟨[], .again hmet⟩
  · obtain ⟨chain, hchain⟩ :=
      tree.exists_climb (slot :: entered) ((tree.get? slot).bind (·.parent))
    exact ⟨chain, .climb hmet hchain⟩

/-! ## What stands on the way -/

def elementsAt (tree : Tree) (slots : List Slot) : List Element :=
  slots.filterMap tree.get?

/-- The value that the nearest element of a chain has for a name. -/
def nearest? (tree : Tree) (chain : List Slot) (name : String) : Option String :=
  (tree.elementsAt chain).findSome? (·.environment.get? name)

/-- All values of variables along a chain, those of the farthest element first. -/
def textsAround (tree : Tree) (chain : List Slot) : List String :=
  (tree.elementsAt chain).reverse.flatMap (·.environment.entries.map (·.2))

/-- Variables of elements over each other in order, with the answers for their values. -/
def overlaid (answer : String → String) (environment : Environment) (elements : List Element) :
    Environment :=
  elements.foldl (fun merged element ↦
    merged.insertMany (element.environment.mapValues answer).entries) environment

theorem get?_overlaid (answer : String → String) (environment : Environment)
    (elements : List Element) (name : String) :
    (overlaid answer environment elements).get? name =
      ((elements.reverse.findSome? (·.environment.get? name)).map answer).or
        (environment.get? name) := by
  induction elements generalizing environment with
  | nil => rfl
  | cons element rest ih =>
    have hvalue : (element.environment.mapValues answer).get? name =
        (element.environment.get? name).map answer :=
      Entries.lookup_map name answer element.environment.entries
    have hstep : overlaid answer environment (element :: rest) =
        overlaid answer (environment.insertMany (element.environment.mapValues answer).entries)
          rest := rfl
    rw [hstep, ih, SortedMap.get?_insertMany_entries, hvalue, List.reverse_cons,
      List.findSome?_append, Option.map_or, Option.or_assoc]
    simp

/-- The variables along a chain under those that an element has itself. -/
def environmentAround (tree : Tree) (answer : String → String) (chain : List Slot)
    (own : Environment) : Environment :=
  (overlaid answer ∅ (tree.elementsAt chain).reverse).insertMany own.entries

theorem get?_environmentAround (tree : Tree) (answer : String → String) (chain : List Slot)
    (own : Environment) (name : String) :
    (tree.environmentAround answer chain own).get? name =
      (own.get? name).or ((tree.nearest? chain name).map answer) := by
  have hempty : (∅ : Environment).get? name = none := rfl
  rw [environmentAround, SortedMap.get?_insertMany_entries, get?_overlaid, List.reverse_reverse,
    hempty, Option.or_none, nearest?]

end Tree

namespace Resolving

variable {tree : Tree} {chain : List Slot} {start : Option Slot} {scope : Scope}

theorem Becomes.overlay (scope : Scope) (environment : Environment) (elements : List Element) :
    Becomes (Tree.overlay scope environment elements)
      (Tree.overlaid scope.answer environment elements) := by
  induction elements generalizing environment with
  | nil => exact Becomes.pure environment
  | cons element rest ih => exact (entries scope element.environment.entries).bind (ih _)

/-- As many steps as the walk has slots, and one more to see where it ends, are enough. -/
theorem ancestors_run {entered : List Slot} (h : tree.Climb entered start chain) :
    ∀ {steps : Nat} {r : Resolution}, r.slots = entered → chain.length < steps →
      ∃ slots, (tree.ancestors steps start).run r =
        (.ok (tree.elementsAt chain), { r with slots }) := by
  induction h with
  | top =>
    intro steps r hslots hsteps
    rw [Tree.ancestors]
    exact ⟨r.slots, rfl⟩
  | @outside entered slot outside =>
    intro steps r hslots hsteps
    obtain ⟨steps, rfl⟩ := Nat.exists_eq_succ_of_ne_zero (Nat.ne_zero_of_lt hsteps)
    rw [Tree.ancestors]
    by_cases hmet : slot ∈ r.slots
    · rw [run_bind_of_ok ((enterSlot_run slot r).trans (if_pos hmet))]
      exact ⟨r.slots, rfl⟩
    · rw [run_bind_of_ok ((enterSlot_run slot r).trans (if_neg hmet)), if_pos rfl, outside]
      exact ⟨slot :: r.slots, rfl⟩
  | @again entered slot again =>
    intro steps r hslots hsteps
    obtain ⟨steps, rfl⟩ := Nat.exists_eq_succ_of_ne_zero (Nat.ne_zero_of_lt hsteps)
    have hmet : slot ∈ r.slots := hslots ▸ again
    rw [Tree.ancestors, run_bind_of_ok ((enterSlot_run slot r).trans (if_pos hmet))]
    exact ⟨r.slots, rfl⟩
  | @step entered chain slot element new get above ih =>
    intro steps r hslots hsteps
    obtain ⟨steps, rfl⟩ := Nat.exists_eq_succ_of_ne_zero (Nat.ne_zero_of_lt hsteps)
    have hnew : slot ∉ r.slots := hslots ▸ new
    obtain ⟨slots, hrun⟩ := @ih steps { r with slots := slot :: r.slots } (by rw [hslots])
      (Nat.lt_of_succ_lt_succ hsteps)
    refine ⟨slots, ?_⟩
    rw [Tree.ancestors, run_bind_of_ok ((enterSlot_run slot r).trans (if_neg hnew)), if_pos rfl,
      get]
    have helements : tree.elementsAt (slot :: chain) = element :: tree.elementsAt chain := by
      rw [Tree.elementsAt, List.filterMap_cons, get]
      rfl
    rw [helements]
    exact run_bind_of_ok hrun

/-- The variables around a slot are asked for, the outermost first, and put over each other. -/
theorem resolveEnvironment_run (tree : Tree) (scope : Scope) {slot : Slot} (own : Environment)
    {r : Resolution} (h : tree.Around r.slots slot chain) :
    ∃ asked result slots, Told scope (tree.textsAround chain) asked result ∧
      (∀ merged, result = .ok merged → merged = tree.environmentAround scope.answer chain own) ∧
      (tree.resolveEnvironment scope slot own).run r =
        (result, { r with slots, calls := asked.reverse ++ r.calls }) := by
  have hmerge : Recites scope (tree.textsAround chain) (do
      let inherited ← Tree.overlay scope ∅ (tree.elementsAt chain).reverse
      return inherited.insertMany own.entries) := (Recites.overlay scope ∅ _).bind_pure
  have hmerged : Becomes (do
      let inherited ← Tree.overlay scope ∅ (tree.elementsAt chain).reverse
      return inherited.insertMany own.entries)
      (tree.environmentAround scope.answer chain own) :=
    (Becomes.overlay scope ∅ _).bind_pure
  obtain ⟨asked, result, htold, hyields⟩ := hmerge
  have hwalk : ∃ slots, (tree.resolveEnvironment scope slot own).run r = (do
      let inherited ← Tree.overlay scope ∅ (tree.elementsAt chain).reverse
      return inherited.insertMany own.entries : Resolving Environment).run { r with slots } := by
    cases h with
    | again again =>
      refine ⟨r.slots, ?_⟩
      rw [Tree.resolveEnvironment, run_bind_of_ok ((enterSlot_run slot r).trans (if_pos again))]
      rfl
    | climb new climb =>
      have henter := (enterSlot_run slot r).trans (if_neg new)
      have hsteps : chain.length < tree.size + 1 :=
        Nat.lt_succ_of_le (climb.length_le.trans (tree.unentered_le _))
      obtain ⟨slots, hclimb⟩ := ancestors_run climb
        (r := { r with slots := slot :: r.slots }) rfl hsteps
      refine ⟨slots, ?_⟩
      rw [Tree.resolveEnvironment, run_bind_of_ok henter, if_pos rfl, run_bind_of_ok hclimb]
  obtain ⟨slots, hwalk⟩ := hwalk
  have hrun := hwalk.trans (hyields { r with slots })
  refine ⟨asked, result, slots, htold, fun merged hresult ↦ ?_, hrun⟩
  apply hmerged { r with slots } merged
  rw [hyields, hresult]

end Resolving

open Resolving (Told resolveEnvironment_run)

theorem Tree.mem_textsAround {tree : Tree} {chain : List Slot} {name text : String}
    (h : tree.nearest? chain name = some text) : text ∈ tree.textsAround chain := by
  obtain ⟨element, hmem, hvalue⟩ := List.exists_of_findSome?_eq_some h
  have hentry : (name, text) ∈ element.environment.entries :=
    element.environment.sorted.lookup_eq_some.mp hvalue
  apply List.mem_flatMap.mpr
  exact ⟨element, List.mem_reverse.mpr hmem, List.mem_map.mpr ⟨(name, text), hentry, rfl⟩⟩

/-- Whatever the links of a tree and the slots entered before, there is one chain of slots around an
element. All variables along it are resolved, once each, the outermost first and in key order, and
nothing else is; the first that cannot be resolved ends this. If all can, the variables of the
element itself win, then those of the nearest slot of the chain, and there are no others. -/
theorem resolveEnvironment_nearest (tree : Tree) (scope : Scope) (slot : Slot) (own : Environment)
    (r : Resolution) :
    ∃ chain result r', (tree.resolveEnvironment scope slot own).run r = (result, r') ∧
      (∀ found, tree.Around r.slots slot found ↔ found = chain) ∧ (slot :: chain).Nodup ∧
      ((∃ merged, result = .ok merged) ↔
        ∀ text ∈ tree.textsAround chain, scope.resolver.Resolves scope.facts text) ∧
      (∀ merged, result = .ok merged →
        r'.calls = (tree.textsAround chain).reverse ++ r.calls ∧
        (∀ name value, own.get? name = some value → merged.get? name = some value) ∧
        (∀ name text, own.get? name = none → tree.nearest? chain name = some text →
          ∃ value, scope.resolver text scope.facts = .ok value ∧ merged.get? name = some value) ∧
        ∀ name, own.get? name = none → tree.nearest? chain name = none →
          merged.get? name = none) ∧
      ∀ error, result = .error error → ∃ before text after,
        tree.textsAround chain = before ++ text :: after ∧
        (∀ found ∈ before, scope.resolver.Resolves scope.facts found) ∧
        scope.resolver text scope.facts = .error error ∧
        r'.calls = (before ++ [text]).reverse ++ r.calls := by
  obtain ⟨chain, hchain⟩ := tree.exists_around r.slots slot
  obtain ⟨asked, result, slots, htold, hvalue, hrun⟩ := resolveEnvironment_run tree scope own hchain
  refine ⟨chain, result, _, hrun, fun found ↦ ⟨hchain.unique, ?_⟩, hchain.nodup, ?_, ?_, ?_⟩
  · rintro rfl
    exact hchain
  · cases result with
    | ok merged => exact iff_of_true ⟨merged, rfl⟩ htold.2
    | error error =>
      obtain ⟨before, text, after, htexts, -, -, hfails⟩ := htold
      refine iff_of_false nofun fun hall ↦ ?_
      obtain ⟨answer, hanswer⟩ := hall text (by simp [htexts])
      cases hfails.symm.trans hanswer
  · rintro merged rfl
    obtain ⟨rfl, hanswers⟩ := htold
    have hget := tree.get?_environmentAround scope.answer chain own
    rw [← hvalue merged rfl] at hget
    refine ⟨rfl, fun name value hown ↦ ?_, fun name text hown hnearest ↦ ?_,
      fun name hown hnearest ↦ ?_⟩
    · rw [hget, hown]
      rfl
    · obtain ⟨answer, hanswer⟩ := hanswers text (Tree.mem_textsAround hnearest)
      refine ⟨answer, hanswer, ?_⟩
      rw [hget, hown, hnearest]
      simp [Scope.answer, Resolver.answer, hanswer]
    · rw [hget, hown, hnearest]
      rfl
  · rintro error rfl
    obtain ⟨before, text, after, htexts, rfl, hbefore, hfails⟩ := htold
    exact ⟨before, text, after, htexts, hbefore, hfails, rfl⟩

/-- Three elements that stand around each other. -/
def circle : Tree :=
  ⟨#[{ Element.bare (some 2) with environment := .ofList [("A", "a"), ("K", "k")] },
    { Element.bare (some 0) with environment := .ofList [("A", "v")] },
    { Element.bare (some 1) with environment := .ofList [("Z", "z")] }], []⟩

theorem resolveEnvironment_nearest_circle :
    let scope : Scope := ⟨Composite.unansweredResolver, ∅⟩
    ∃ merged r', circle.Around [] 2 [1, 0] ∧
      (circle.resolveEnvironment scope 2 (.ofList [("O", "o")])).run (.start []) =
        (.ok merged, r') ∧
      r'.calls = ["v", "k", "a"] ∧ merged.get? "A" = some "vv" ∧ merged.get? "K" = some "kk" ∧
      merged.get? "O" = some "o" ∧ merged.get? "Z" = none := by
  intro scope
  have hcircle : circle.Around [] 2 [1, 0] :=
    .climb nofun (.step (by decide) rfl (.step (by decide) rfl (.again (by decide))))
  obtain ⟨chain, result, r', hrun, hchain, -, hsucceeds, hmerged, -⟩ :=
    resolveEnvironment_nearest circle scope 2 (.ofList [("O", "o")]) (.start [])
  obtain rfl := (hchain _).mp hcircle
  have hanswer (text : String) (hne : text ≠ "b") :
      scope.resolver text scope.facts = .ok (text ++ text) := if_neg hne
  have hanswers : ∀ text ∈ circle.textsAround [1, 0],
      scope.resolver.Resolves scope.facts text := by
    intro text hmem
    refine ⟨text ++ text, hanswer text ?_⟩
    rintro rfl
    revert hmem
    decide
  obtain ⟨merged, rfl⟩ := hsucceeds.mpr hanswers
  obtain ⟨hcalls, hown, hnearest, hnone⟩ := hmerged merged rfl
  have hvalue (name text : String) (hne : text ≠ "b")
      (hfound : circle.nearest? [1, 0] name = some text)
      (hfree : (SortedMap.ofList [("O", "o")]).get? name = none) :
      merged.get? name = some (text ++ text) := by
    obtain ⟨value, hresolves, hget⟩ := hnearest name text hfree hfound
    obtain rfl := Except.ok.inj ((hanswer text hne).symm.trans hresolves)
    exact hget
  exact ⟨merged, r', hcircle, hrun, hcalls, hvalue "A" "v" (by decide) rfl rfl,
    hvalue "K" "k" (by decide) rfl rfl, hown "O" "o" rfl, hnone "Z" rfl rfl⟩

end Playbook
