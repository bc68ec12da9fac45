import Playbook.Proofs.Leaves

/-!
# Reciting strings

Resolving a value without shared parts recites its strings: it asks for them in the order in which
they stand, up to the first that the resolver has no answer to. If there is one, the resolution
fails with what the resolver says to it, and otherwise it gives a value. What was met or asked
before makes no difference.
-/

namespace Playbook

def Resolver.Resolves (resolver : Resolver) (facts : Facts) (text : String) : Prop :=
  ∃ answer, resolver text facts = .ok answer

/-- The resolution after it asked for the texts, the last of which is the latest. -/
def Resolution.having (r : Resolution) (asked : List String) : Resolution :=
  { r with calls := asked.reverse ++ r.calls }

theorem Resolution.having_append (r : Resolution) (asked later : List String) :
    r.having (asked ++ later) = (r.having asked).having later := by
  simp [having]

namespace Resolving

variable {scope : Scope} {α β : Type} {texts texts' : List String}

/-- Of the texts to ask for all were asked and have answers, or they were asked up to the first that
has none. -/
def Told (scope : Scope) (texts asked : List String) : Except ResolveError α → Prop
  | .ok _ => asked = texts ∧ ∀ text ∈ texts, scope.resolver.Resolves scope.facts text
  | .error error => ∃ before text after, texts = before ++ text :: after ∧
      asked = before ++ [text] ∧ (∀ found ∈ before, scope.resolver.Resolves scope.facts found) ∧
      scope.resolver text scope.facts = .error error

namespace Told

/-- After an error nothing more is asked. -/
theorem stop {asked : List String} {error : ResolveError} (texts' : List String)
    (h : Told scope texts asked (.error error : Except ResolveError α)) :
    Told scope (texts ++ texts') asked (.error error : Except ResolveError β) := by
  obtain ⟨before, text, after, rfl, rfl, hbefore, hfails⟩ := h
  refine ⟨before, text, after ++ texts', ?_, rfl, hbefore, hfails⟩
  rw [List.append_assoc, List.cons_append]

theorem append {asked later : List String} {value : α} {result : Except ResolveError β}
    (h : Told scope texts asked (.ok value)) (hlater : Told scope texts' later result) :
    Told scope (texts ++ texts') (asked ++ later) result := by
  obtain ⟨rfl, hanswers⟩ := h
  cases result with
  | ok value =>
    obtain ⟨rfl, hmore⟩ := hlater
    refine ⟨rfl, fun text hmem ↦ ?_⟩
    exact (List.mem_append.mp hmem).elim (hanswers text) (hmore text)
  | error error =>
    obtain ⟨before, text, after, rfl, rfl, hbefore, hfails⟩ := hlater
    refine ⟨asked ++ before, text, after, ?_, ?_, fun found hmem ↦ ?_, hfails⟩
    · rw [List.append_assoc]
    · rw [List.append_assoc]
    · exact (List.mem_append.mp hmem).elim (hanswers found) (hbefore found)

end Told

/-- Whatever came before, a computation asks for these texts and ends like this. -/
def Yields (resolve : Resolving α) (asked : List String) (result : Except ResolveError α) : Prop :=
  ∀ r, resolve.run r = (result, r.having asked)

theorem Yields.text (scope : Scope) (template : String) :
    Yields (Resolving.text scope template) [template] (scope.resolver template scope.facts) := by
  intro r
  have hmodify : (modify (Resolving.call template) : Resolving PUnit).run r =
      (.ok ⟨⟩, Resolving.call template r) := rfl
  rw [Resolving.text, run_bind_of_ok hmodify]
  cases scope.resolver template scope.facts <;> rfl

theorem Yields.unique {resolve : Resolving α} {asked asked' : List String}
    {result result' : Except ResolveError α} (h : Yields resolve asked result)
    (h' : Yields resolve asked' result') : asked = asked' ∧ result = result' := by
  obtain ⟨hresult, hafter⟩ := Prod.mk.inj ((h (.start [])).symm.trans (h' (.start [])))
  have hcalls : asked.reverse ++ [] = asked'.reverse ++ [] := congrArg (·.calls) hafter
  rw [List.append_nil, List.append_nil] at hcalls
  exact ⟨List.reverse_inj.mp hcalls, hresult⟩

/-- A computation asks for the texts in order, as far as there are answers. -/
def Recites (scope : Scope) (texts : List String) (resolve : Resolving α) : Prop :=
  ∃ asked result, Told scope texts asked result ∧ Yields resolve asked result

namespace Recites

protected theorem pure (value : α) : Recites scope [] (Pure.pure value : Resolving α) :=
  ⟨[], .ok value, ⟨rfl, nofun⟩, fun _ ↦ rfl⟩

protected theorem bind {resolve : Resolving α} {next : α → Resolving β}
    (h : Recites scope texts resolve) (hnext : ∀ value, Recites scope texts' (next value)) :
    Recites scope (texts ++ texts') (resolve >>= next) := by
  obtain ⟨asked, result, htold, hrun⟩ := h
  cases result with
  | error error =>
    exact ⟨asked, .error error, htold.stop texts', fun r ↦ run_bind_of_error (hrun r)⟩
  | ok value =>
    obtain ⟨later, final, hlater, hrun'⟩ := hnext value
    refine ⟨asked ++ later, final, htold.append hlater, fun r ↦ ?_⟩
    rw [run_bind_of_ok (hrun r), hrun', Resolution.having_append]

/-- The value that is given may be rebuilt. -/
theorem bind_pure {resolve : Resolving α} {build : α → β} (h : Recites scope texts resolve) :
    Recites scope texts (resolve >>= fun value ↦ Pure.pure (build value)) := by
  have hbuilt (value : α) : Recites scope [] (Pure.pure (build value) : Resolving β) :=
    Recites.pure (build value)
  have hall := h.bind hbuilt
  rwa [List.append_nil] at hall

theorem text (scope : Scope) (template : String) :
    Recites scope [template] (Resolving.text scope template) := by
  refine ⟨[template], _, ?_, Yields.text scope template⟩
  cases hanswer : scope.resolver template scope.facts with
  | ok answer =>
    refine ⟨rfl, fun text hmem ↦ ?_⟩
    rw [List.mem_singleton.mp hmem]
    exact ⟨answer, hanswer⟩
  | error error => exact ⟨[], template, [], rfl, rfl, nofun, hanswer⟩

theorem optional {resolve : α → Resolving α} {strings : α → List String}
    (h : ∀ value, Recites scope (strings value) (resolve value)) (given : Option α) :
    Recites scope (given.elim [] strings) (Resolving.optional resolve given) := by
  cases given with
  | none => exact Recites.pure none
  | some value => exact (h value).bind_pure

theorem list (scope : Scope) (templates : List String) :
    Recites scope templates (Resolving.list (Resolving.text scope) templates) := by
  induction templates with
  | nil => exact Recites.pure []
  | cons template rest ih => exact (text scope template).bind fun _ ↦ ih.bind_pure

theorem entries (scope : Scope) (entries : List (String × String)) :
    Recites scope (entries.map (·.2)) (Resolving.entries (Resolving.text scope) entries) := by
  induction entries with
  | nil => exact Recites.pure []
  | cons entry rest ih => exact (text scope entry.2).bind fun _ ↦ ih.bind_pure

mutual

theorem json (scope : Scope) : (value : Json) → Recites scope value.leaves (value.resolve scope)
  | .str template => (text scope template).bind_pure
  | .arr items => (jsonItems scope items).bind_pure
  | .obj fields => (jsonFields scope fields).bind_pure
  | .null | .bool _ | .int _ | .float _ => Recites.pure _

theorem jsonItems (scope : Scope) : (items : List Json) →
    Recites scope (Json.leavesOfItems items) (Json.resolveItems scope items)
  | [] => Recites.pure []
  | item :: rest => (json scope item).bind fun _ ↦ (jsonItems scope rest).bind_pure

theorem jsonFields (scope : Scope) : (fields : List (String × Json)) →
    Recites scope (Json.leavesOfFields fields) (Json.resolveFields scope fields)
  | [] => Recites.pure []
  | (_, value) :: rest => (json scope value).bind fun _ ↦ (jsonFields scope rest).bind_pure

end

theorem loop (scope : Scope) (spec : LoopSpec) :
    Recites scope spec.leaves (spec.resolve scope) := by
  cases spec with
  | var template => exact (text scope template).bind_pure
  | items values => exact (jsonItems scope values).bind_pure

theorem task (scope : Scope) (given : Invocation) :
    Recites scope given.leaves (given.resolve scope) :=
  (jsonFields scope given.config).bind_pure

theorem element (scope : Scope) (element : Element) :
    Recites scope element.leaves (element.resolve scope) := by
  have hname := optional (text scope) element.name
  have hguards := list scope element.guards
  have hregister := optional (text scope) element.register
  have henvironment : Recites scope (element.environment.entries.map (·.2))
      (element.environment.resolve scope) := (entries scope element.environment.entries).bind_pure
  have hloop := optional (loop scope) element.loop
  have htask := optional (task scope) element.task
  have hall : Recites scope _ (element.resolve scope) :=
    hname.bind fun _ ↦ hguards.bind fun _ ↦ hregister.bind fun _ ↦ henvironment.bind fun _ ↦
      hloop.bind fun _ ↦ htask.bind_pure
  have hlist (given : Option String) : given.elim [] (fun text ↦ [text]) = given.toList := by
    cases given <;> rfl
  rwa [hlist, hlist, ← List.append_assoc, ← List.append_assoc, ← List.append_assoc,
    ← List.append_assoc] at hall

theorem overlay (scope : Scope) (environment : Environment) (elements : List Element) :
    Recites scope (elements.flatMap fun element ↦ element.environment.entries.map (·.2))
      (Tree.overlay scope environment elements) := by
  induction elements generalizing environment with
  | nil => exact Recites.pure environment
  | cons element rest ih => exact (entries scope element.environment.entries).bind fun _ ↦ ih _

end Recites

end Resolving

end Playbook
