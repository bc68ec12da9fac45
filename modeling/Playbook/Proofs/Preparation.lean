import Playbook.Proofs.Ancestry
import Playbook.Proofs.IgnoredErrors
import Playbook.Proofs.Unresolved

/-!
# Failing before a task runs

Before the task of an element runs, the strings of the element and of the variables around it are
resolved, the kind of the task is looked up, and the task is told its configuration. Where one of
this fails nothing has happened but that the resolver was asked and lines were logged, and whether
errors are ignored is not looked at. A loop ends with such an error in the pass in which it arises,
with the facts that the passes before it left.
-/

namespace Playbook

open Engine

/-! ## Sessions in which no task ran -/

/-- The kinds of the tasks that ran, the latest first. -/
def Session.runs (s : Session) : List TaskKind :=
  s.journal.events.filterMap fun
    | .init .. => none
    | .run kind => some kind

/-- Between the sessions no more was done than to ask, to log and to tell tasks what they are. -/
structure Session.Prepares (s s' : Session) : Prop where
  facts : s'.facts = s.facts
  depth : s'.depth = s.depth
  cancelled : s'.cancelled = s.cancelled
  files : s'.files = s.files
  reads : s'.journal.reads = s.journal.reads
  runs : s'.runs = s.runs

namespace Session.Prepares

variable {s s' s'' : Session}

protected theorem trans (h : s.Prepares s') (h' : s'.Prepares s'') : s.Prepares s'' where
  facts := h'.facts.trans h.facts
  depth := h'.depth.trans h.depth
  cancelled := h'.cancelled.trans h.cancelled
  files := h'.files.trans h.files
  reads := h'.reads.trans h.reads
  runs := h'.runs.trans h.runs

theorem withCalls (s : Session) (calls : List String) : s.Prepares (s.withCalls calls) :=
  ⟨rfl, rfl, rfl, rfl, rfl, rfl⟩

theorem logged (s : Session) (entry : LogEntry) : s.Prepares (s.logged entry) :=
  ⟨rfl, rfl, rfl, rfl, rfl, rfl⟩

theorem init (s : Session) (kind : TaskKind) (config : Config) (environment : Environment) :
    s.Prepares (s.noted (.init kind config environment)) :=
  ⟨rfl, rfl, rfl, rfl, rfl, rfl⟩

theorem of_asked (h : s.Asked s') : s.Prepares s' := by
  obtain ⟨_, _, rfl⟩ := h
  exact ⟨rfl, rfl, rfl, rfl, rfl, rfl⟩

theorem removeFact (h : s.Prepares s') (name : String) :
    (s.removeFact name).Prepares (s'.removeFact name) where
  facts := congrArg (·.erase name) h.facts
  depth := h.depth
  cancelled := h.cancelled
  files := h.files
  reads := h.reads
  runs := h.runs

end Session.Prepares

theorem Facts.erase_insert (facts : Facts) (name : String) (value : Json) :
    (facts.insert name value).erase name = facts.erase name := by
  apply SortedMap.ext_get?
  intro other
  rw [SortedMap.get?_erase, SortedMap.get?_erase, SortedMap.get?_insert]
  split <;> rfl

/-- A fact that is set and removed again has never been there. -/
theorem Session.removeFact_setFact (s : Session) (name : String) (value : Json) :
    (s.setFact name value).removeFact name = s.removeFact name := by
  rw [removeFact, removeFact, setFact, Facts.erase_insert]

/-! ## What a task is made from -/

theorem Element.task_mapLeaves (f : String → String) (element : Element) :
    (element.mapLeaves f).task = element.task.map (Invocation.mapLeaves f) :=
  rfl

open Resolving (Told Recites Becomes)

/-- If not all strings can be resolved, there is a first that cannot. -/
theorem Resolver.exists_first_unresolved {resolver : Resolver} {facts : Facts} {texts : List String}
    (h : ¬ ∀ text ∈ texts, resolver.Resolves facts text) :
    ∃ before text after error, texts = before ++ text :: after ∧
      (∀ found ∈ before, resolver.Resolves facts found) ∧ resolver text facts = .error error := by
  induction texts with
  | nil => exact absurd nofun h
  | cons text rest ih =>
    cases hanswer : resolver text facts with
    | error error => exact ⟨[], text, rest, error, rfl, nofun, hanswer⟩
    | ok answer =>
      have hrest : ¬ ∀ found ∈ rest, resolver.Resolves facts found := by
        intro hall
        exact h (List.forall_mem_cons.mpr ⟨⟨answer, hanswer⟩, hall⟩)
      obtain ⟨before, first, after, error, rfl, hbefore, hfails⟩ := ih hrest
      exact ⟨text :: before, first, after, error, rfl,
        List.forall_mem_cons.mpr ⟨⟨answer, hanswer⟩, hbefore⟩, hfails⟩

theorem Resolver.first_unresolved_unique {resolver : Resolver} {facts : Facts}
    {before after front back : List String} {text met : String} {error other : ResolveError}
    (htexts : before ++ text :: after = front ++ met :: back)
    (hbefore : ∀ found ∈ before, resolver.Resolves facts found)
    (hfails : resolver text facts = .error error)
    (hfront : ∀ found ∈ front, resolver.Resolves facts found)
    (hmet : resolver met facts = .error other) : met = text := by
  rcases List.append_eq_append_iff.mp htexts with ⟨middle, rfl, hrest⟩ | ⟨middle, rfl, hrest⟩
  · rcases List.cons_eq_append_iff.mp hrest with ⟨-, hcons⟩ | ⟨later, rfl, -⟩
    · exact (List.cons.inj hcons).1
    · have hresolves := hfront text (List.mem_append_right before List.mem_cons_self)
      exact absurd hresolves (not_resolves_of_error hfails)
  · rcases List.cons_eq_append_iff.mp hrest with ⟨-, hcons⟩ | ⟨later, rfl, -⟩
    · exact (List.cons.inj hcons).1.symm
    · have hresolves := hbefore met (List.mem_append_right front List.mem_cons_self)
      exact absurd hresolves (not_resolves_of_error hmet)

namespace Resolving

variable {scope : Scope} {α : Type}

/-- The first string without an answer decides how a resolution ends. -/
theorem Told.eq_error {before after asked : List String} {text : String} {error : ResolveError}
    {result : Except ResolveError α} (h : Told scope (before ++ text :: after) asked result)
    (hbefore : ∀ found ∈ before, scope.resolver.Resolves scope.facts found)
    (hfails : scope.resolver text scope.facts = .error error) : result = .error error := by
  cases result with
  | ok value =>
    obtain ⟨answer, hanswer⟩ := h.2 text (List.mem_append_right before List.mem_cons_self)
    cases hanswer.symm.trans hfails
  | error other =>
    obtain ⟨front, met, back, htexts, -, hfront, hmet⟩ := h
    obtain rfl := Resolver.first_unresolved_unique htexts hbefore hfails hfront hmet
    rw [Except.error.inj (hmet.symm.trans hfails)]

end Resolving

/-- What strings are resolved with while the facts are the given ones. -/
abbrev Context.scope (context : Context) (facts : Facts) : Scope :=
  ⟨context.resolver, facts⟩

namespace Engine

/-- The strings that are resolved for a task: those of its element, and those of the variables
along the chain around it. -/
def textsFor (tree : Tree) (chain : List Slot) (element : Element) : List String :=
  element.leaves ++ tree.textsAround chain

/-- The variables that a task is told, with the answers for their values. -/
def environmentFor (tree : Tree) (scope : Scope) (chain : List Slot) (element : Element) :
    Environment :=
  tree.environmentAround scope.answer chain (element.environment.mapValues scope.answer)

/-- Why a task cannot be made: the first string without an answer, or else what is wrong with the
task. -/
inductive Unprepared (context : Context) (tree : Tree) (chain : List Slot) (element : Element)
    (facts : Facts) : ExecutionError → Prop where
  | unresolved {before after : List String} {text : String} {error : ResolveError}
      (texts : textsFor tree chain element = before ++ text :: after)
      (earlier : ∀ found ∈ before, context.resolver.Resolves facts found)
      (fails : context.resolver text facts = .error error) :
      Unprepared context tree chain element facts (.resolve error)
  | missing (resolves : ∀ text ∈ textsFor tree chain element, context.resolver.Resolves facts text)
      (absent : element.task = none) :
      Unprepared context tree chain element facts (.task
        (element.mapLeaves (context.scope facts).answer).displayName .missing)
  | unregistered {invocation : Invocation}
      (resolves : ∀ text ∈ textsFor tree chain element, context.resolver.Resolves facts text)
      (task : element.task = some invocation)
      (unknown : context.registry.has invocation.kind = false) :
      Unprepared context tree chain element facts
        (.task invocation.kind (.notRegistered invocation.kind))
  | rejected {invocation : Invocation} {kind : TaskKind} {error : TaskError}
      (resolves : ∀ text ∈ textsFor tree chain element, context.resolver.Resolves facts text)
      (task : element.task = some invocation)
      (known : context.registry.find invocation.kind = .ok kind)
      (rejects : Task.init kind
        ⟨some (invocation.mapLeaves (context.scope facts).answer),
          environmentFor tree (context.scope facts) chain element⟩ = .error error) :
      Unprepared context tree chain element facts
        (.task invocation.kind (.init invocation.kind error))

variable {context : Context} {tree : Tree} {slot : Slot} {element : Element} {chain : List Slot}

/-- The snapshot of an element that is no block has the answers for all its strings. -/
theorem snapshot_run (scope : Scope) (hblock : element.isBlock = false) {r : Resolution}
    (hchain : tree.Around r.slots slot chain) : ∃ asked result r',
      Told scope (textsFor tree chain element) asked result ∧
      (∀ found, result = .ok found →
        found = (element.mapLeaves scope.answer, environmentFor tree scope chain element)) ∧
      (snapshot tree slot element scope).run r = (result, r') ∧
      r'.calls = asked.reverse ++ r.calls := by
  obtain ⟨asked, result, htold, hyields⟩ := Recites.element scope element
  have hbecomes := Becomes.element scope element r
  rw [hyields r] at hbecomes
  cases result with
  | error error =>
    exact ⟨asked, .error error, _, htold.stop _, nofun, run_bind_of_error (hyields r), rfl⟩
  | ok resolved =>
    obtain rfl := hbecomes resolved rfl
    obtain ⟨later, result, slots, htold', hmerged, hrun⟩ := Resolving.resolveEnvironment_run tree
      scope (element.mapLeaves scope.answer).environment (r := r.having asked) hchain
    have hisBlock : (element.mapLeaves scope.answer).isBlock = false := hblock
    have hsnapshot : (snapshot tree slot element scope).run r =
        (do return (element.mapLeaves scope.answer, ← tree.resolveEnvironment scope slot
          (element.mapLeaves scope.answer).environment) : Resolving _).run (r.having asked) := by
      rw [snapshot, run_bind_of_ok (hyields r), hisBlock]
      rfl
    rw [hsnapshot]
    have hcalls : (later.reverse ++ (r.having asked).calls) =
        (asked ++ later).reverse ++ r.calls := by
      rw [List.reverse_append, List.append_assoc]
      rfl
    cases result with
    | error error =>
      have hall : Told scope (textsFor tree chain element) (asked ++ later)
          (.error error : Except ResolveError (Element × Environment)) := htold.append htold'
      exact ⟨_, _, _, hall, nofun, run_bind_of_error hrun, hcalls⟩
    | ok merged =>
      have hall : Told scope (textsFor tree chain element) (asked ++ later)
          (.ok merged : Except ResolveError Environment) := htold.append htold'
      refine ⟨_, .ok _, _, hall, ?_, run_bind_of_ok hrun, hcalls⟩
      intro found hfound
      rw [← Except.ok.inj hfound, hmerged merged rfl]
      rfl

/-- If all strings can be resolved, the task is dispatched with the answers. -/
theorem runOnce_of_resolves (hblock : element.isBlock = false)
    (hchain : tree.Around [] slot chain) (runFile : RunFile) (child : Slot → Run)
    (spans : List String) {s : Session} (hresolves : ∀ text ∈ textsFor tree chain element,
      context.resolver.Resolves s.facts text) : ∃ calls,
      (runOnce context runFile tree child spans slot element).run s =
        (dispatch context runFile spans
          (element.mapLeaves (context.scope s.facts).answer)
          (environmentFor tree (context.scope s.facts) chain element)).run
          (s.withCalls calls) := by
  obtain ⟨asked, result, r', htold, hvalue, hsnapshot, -⟩ :=
    snapshot_run (context.scope s.facts) hblock (r := .start s.journal.calls) hchain
  have hresolve := because_run ExecutionError.resolve
    (Acting.resolving context (snapshot tree slot element)) s
  rw [resolving_run, hsnapshot] at hresolve
  cases result with
  | error error =>
    obtain ⟨before, text, after, htexts, -, -, hfails⟩ := htold
    obtain ⟨answer, hanswer⟩ :=
      hresolves text (htexts ▸ List.mem_append_right before List.mem_cons_self)
    cases hanswer.symm.trans hfails
  | ok found =>
    obtain rfl := hvalue found rfl
    have hisBlock : (element.mapLeaves (context.scope s.facts).answer).isBlock = false :=
      hblock
    refine ⟨r'.calls, ?_⟩
    rw [runOnce, run_bind_of_ok hresolve]
    simp only [hisBlock, Bool.false_eq_true, if_false]

/-! ## The failures of one pass -/

section

variable (runFile : RunFile) (spans : List String) {invocation : Invocation} {s : Session}

theorem dispatch_missing (htask : element.task = none) (environment : Environment) :
    (dispatch context runFile spans element environment).run s =
      (.error (.task element.displayName .missing), s) := by
  rw [dispatch, htask]
  rfl

theorem dispatch_unregistered (htask : element.task = some invocation)
    (hunknown : context.registry.has invocation.kind = false) (environment : Environment) :
    (dispatch context runFile spans element environment).run s =
      (.error (.task invocation.kind (.notRegistered invocation.kind)), s) := by
  have hnone : context.registry.kinds.get? invocation.kind = none :=
    Option.isNone_iff_eq_none.mp (Option.isSome_eq_false_iff.mp hunknown)
  have hfind : context.registry.find invocation.kind =
      .error (.notRegistered invocation.kind) := by
    rw [Registry.find, hnone]
  rw [dispatch, htask]
  dsimp only
  rw [hfind]
  rfl

theorem dispatch_rejected {environment : Environment} {kind : TaskKind} {error : TaskError}
    (htask : element.task = some invocation)
    (hknown : context.registry.find invocation.kind = .ok kind)
    (hrejects : Task.init kind ⟨some invocation, environment⟩ = .error error) :
    ∃ entry, (dispatch context runFile spans element environment).run s =
      (.error (.task invocation.kind (.init invocation.kind error)),
        (s.logged entry).noted (.init kind invocation.config environment)) := by
  rw [dispatch, htask]
  dsimp only
  rw [hknown]
  dsimp only
  rw [hrejects]
  exact ⟨_, rfl⟩

end

/-- An element whose task cannot be made fails, whatever becomes of its errors. -/
theorem runOnce_unprepared (hblock : element.isBlock = false) (hchain : tree.Around [] slot chain)
    (runFile : RunFile) (child : Slot → Run) (spans : List String) {s : Session}
    {error : ExecutionError} (h : Unprepared context tree chain element s.facts error) :
    ∃ s', (runOnce context runFile tree child spans slot element).run s = (.error error, s') ∧
      s.Prepares s' := by
  have hdispatch : (∀ text ∈ textsFor tree chain element, context.resolver.Resolves s.facts text) →
      _ := runOnce_of_resolves hblock hchain runFile child spans
  cases h with
  | unresolved texts earlier fails =>
    obtain ⟨asked, result, r', htold, -, hsnapshot, -⟩ :=
      snapshot_run (context.scope s.facts) hblock (r := .start s.journal.calls) hchain
    have hresolve := because_run ExecutionError.resolve
      (Acting.resolving context (snapshot tree slot element)) s
    rw [texts] at htold
    rw [resolving_run, hsnapshot, htold.eq_error earlier fails] at hresolve
    exact ⟨_, run_bind_of_error hresolve, .withCalls s _⟩
  | missing resolves absent =>
    obtain ⟨calls, hrun⟩ := hdispatch resolves
    refine ⟨_, hrun.trans (dispatch_missing runFile spans ?_ _), .withCalls s calls⟩
    rw [Element.task_mapLeaves, absent, Option.map_none]
  | unregistered resolves task unknown =>
    obtain ⟨calls, hrun⟩ := hdispatch resolves
    have htask := element.task_mapLeaves (context.scope s.facts).answer
    rw [task, Option.map_some] at htask
    have hrefused := dispatch_unregistered runFile spans (s := s.withCalls calls) htask unknown
    exact ⟨_, hrun.trans (hrefused _), .withCalls s calls⟩
  | rejected resolves task known rejects =>
    obtain ⟨calls, hrun⟩ := hdispatch resolves
    have htask := element.task_mapLeaves (context.scope s.facts).answer
    rw [task, Option.map_some] at htask
    obtain ⟨entry, hrejected⟩ :=
      dispatch_rejected runFile spans (s := s.withCalls calls) htask known rejects
    refine ⟨_, hrun.trans hrejected, ?_⟩
    exact ((Session.Prepares.withCalls s calls).trans (.logged _ entry)).trans (.init _ _ _ _)

/-- Whether a task can be made is a matter of its strings, its kind and its configuration. -/
theorem exists_unprepared_iff (context : Context) (tree : Tree) (chain : List Slot)
    (element : Element) (facts : Facts) :
    (∃ error, Unprepared context tree chain element facts error) ↔
      (∃ text ∈ textsFor tree chain element, ¬ context.resolver.Resolves facts text) ∨
      element.task = none ∨
      ∃ invocation, element.task = some invocation ∧
        (context.registry.has invocation.kind = false ∨
        ∃ kind error, context.registry.find invocation.kind = .ok kind ∧
          Task.init kind ⟨some (invocation.mapLeaves (context.scope facts).answer),
            environmentFor tree (context.scope facts) chain element⟩ = .error error) := by
  constructor
  · rintro ⟨error, h⟩
    cases h with
    | unresolved texts earlier fails =>
      refine .inl ⟨_, ?_, Resolver.not_resolves_of_error fails⟩
      rw [texts]
      exact List.mem_append_right _ List.mem_cons_self
    | missing resolves absent => exact .inr (.inl absent)
    | unregistered resolves task unknown => exact .inr (.inr ⟨_, task, .inl unknown⟩)
    | rejected resolves task known rejects =>
      exact .inr (.inr ⟨_, task, .inr ⟨_, _, known, rejects⟩⟩)
  · intro h
    by_cases hall : ∀ text ∈ textsFor tree chain element, context.resolver.Resolves facts text
    · rcases h with ⟨text, hmem, hnot⟩ | habsent | ⟨invocation, htask, hunknown | hrejects⟩
      · exact absurd (hall text hmem) hnot
      · exact ⟨_, .missing hall habsent⟩
      · exact ⟨_, .unregistered hall htask hunknown⟩
      · obtain ⟨kind, error, hknown, hrejects⟩ := hrejects
        exact ⟨_, .rejected hall htask hknown hrejects⟩
    · obtain ⟨before, text, after, error, htexts, hearlier, hfails⟩ :=
        Resolver.exists_first_unresolved hall
      exact ⟨_, .unresolved htexts hearlier hfails⟩

/-! ## Passes of a loop -/

section

variable {once : Run} {before rest : List Json} {item : Json} {s s₁ s' : Session}

/-- Items at the front whose passes succeed can be gone through first. -/
theorem runItems_append_of_ok (hbefore : (runItems once before).run s = (.ok (), s₁))
    (rest : List Json) :
    (runItems once (before ++ rest)).run s = (runItems once rest).run s₁ := by
  induction before generalizing s with
  | nil =>
    obtain ⟨-, rfl⟩ := Prod.mk.inj hbefore
    rfl
  | cons item others ih =>
    rcases hpass : once.run (s.setFact Facts.loopItem item) with ⟨error | ⟨⟩, after⟩
    · rw [runItems_of_error hpass] at hbefore
      cases hbefore
    · rw [runItems_of_ok hpass] at hbefore
      rw [List.cons_append, runItems_of_ok hpass, ih hbefore]

/-- The pass that fails is the last one, whatever items are left. -/
theorem runItems_fails_at {error : ExecutionError}
    (hbefore : (runItems once before).run s = (.ok (), s₁))
    (hpass : once.run (s₁.setFact Facts.loopItem item) = (.error error, s')) (rest : List Json) :
    (runItems once (before ++ item :: rest)).run s =
      (.error error, s'.removeFact Facts.loopItem) := by
  calc (runItems once (before ++ item :: rest)).run s
      = (runItems once (item :: rest)).run s₁ := runItems_append_of_ok hbefore _
    _ = (.error error, s'.removeFact Facts.loopItem) := runItems_of_error hpass

end

theorem runItems_unprepared (hblock : element.isBlock = false)
    (hchain : tree.Around [] slot chain) (runFile : RunFile) (child : Slot → Run)
    (spans : List String) {s s₁ : Session} {before : List Json} {item : Json}
    {error : ExecutionError}
    (hbefore : (runItems (runOnce context runFile tree child spans slot element) before).run s =
      (.ok (), s₁))
    (h : Unprepared context tree chain element (s₁.facts.insert Facts.loopItem item) error) :
    ∃ s', (s₁.removeFact Facts.loopItem).Prepares s' ∧ ∀ rest,
      (runItems (runOnce context runFile tree child spans slot element)
        (before ++ item :: rest)).run s = (.error error, s') := by
  obtain ⟨s', hpass, hprepares⟩ := runOnce_unprepared hblock hchain runFile child spans
    (s := s₁.setFact Facts.loopItem item) h
  refine ⟨s'.removeFact Facts.loopItem, ?_, runItems_fails_at hbefore hpass⟩
  rw [← s₁.removeFact_setFact Facts.loopItem item]
  exact hprepares.removeFact Facts.loopItem

/-! ## An element that is not skipped -/

section

variable {spans inside : List String} {s s₁ s₂ : Session} (runFile : RunFile) (depth : Nat)

theorem runElement_of_holds (hget : tree.get? slot = some element)
    (hinside : inside = spans ++ [element.displayName])
    (hguards : (holds context inside element.guards).run s = (.ok true, s₁))
    (hloop : element.loop = none) :
    (runElement context runFile tree (depth + 1) spans slot).run s =
      (runOnce context runFile tree (runElement context runFile tree depth inside) inside slot
        element).run s₁ := by
  subst hinside
  rw [runElement, hget]
  simp only [hloop]
  rw [run_bind_of_ok hguards, if_pos rfl]

theorem runElement_of_items (hget : tree.get? slot = some element)
    (hinside : inside = spans ++ [element.displayName])
    (hguards : (holds context inside element.guards).run s = (.ok true, s₁)) {spec : LoopSpec}
    (hloop : element.loop = some spec) {items : List Json}
    (hitems : (loopItems context spec).run s₁ = (.ok items, s₂)) :
    (runElement context runFile tree (depth + 1) spans slot).run s =
      (runItems (runOnce context runFile tree (runElement context runFile tree depth inside) inside
        slot element) items).run (s₂.logged ⟨.debug, "Starting loop", inside⟩) := by
  subst hinside
  have hlog : (Acting.log (spans ++ [element.displayName]) .debug "Starting loop" : Run).run s₂ =
      (.ok (), s₂.logged ⟨.debug, "Starting loop", spans ++ [element.displayName]⟩) := rfl
  rw [runElement, hget]
  simp only [hloop]
  rw [run_bind_of_ok hguards, if_pos rfl, run_bind_of_ok hitems, run_bind_of_ok hlog]

end

end Engine

/-- An element that is no block fails in a pass if one of the strings of the element or of the
variables around it cannot be resolved, or its task is missing, not known or not content with its
configuration. Whether errors are ignored makes no difference to that. In this pass no task runs,
and the facts, the depth and the files are as before; after it the facts are those that the passes
before it left, without an item, and no pass follows. -/
theorem execution_fails_unprepared (context : Context) (tree : Tree) (slot : Slot)
    (element : Element) (hget : tree.get? slot = some element) (hblock : element.isBlock = false) :
    ∃ chain, (∀ found, tree.Around [] slot found ↔ found = chain) ∧
    (∀ facts, (∃ error, Unprepared context tree chain element facts error) ↔
      (∃ text ∈ textsFor tree chain element, ¬ context.resolver.Resolves facts text) ∨
      element.task = none ∨
      ∃ invocation, element.task = some invocation ∧
        (context.registry.has invocation.kind = false ∨
        ∃ kind error, context.registry.find invocation.kind = .ok kind ∧
          Task.init kind ⟨some (invocation.mapLeaves (context.scope facts).answer),
            environmentFor tree (context.scope facts) chain element⟩ = .error error)) ∧
    (∀ runFile child spans s error, Unprepared context tree chain element s.facts error →
      ∃ s', (runOnce context runFile tree child spans slot element).run s = (.error error, s') ∧
        s.Prepares s') ∧
    (∀ runFile child spans s s₁ before item error,
      (runItems (runOnce context runFile tree child spans slot element) before).run s =
        (.ok (), s₁) →
      Unprepared context tree chain element (s₁.facts.insert Facts.loopItem item) error →
      ∃ s', (s₁.removeFact Facts.loopItem).Prepares s' ∧ ∀ rest,
        (runItems (runOnce context runFile tree child spans slot element)
          (before ++ item :: rest)).run s = (.error error, s')) ∧
    ∀ runFile depth spans inside s s₁, inside = spans ++ [element.displayName] →
      (holds context inside element.guards).run s = (.ok true, s₁) →
      (element.loop = none → ∀ error, Unprepared context tree chain element s.facts error →
        ∃ s', (runElement context runFile tree (depth + 1) spans slot).run s =
          (.error error, s') ∧ s.Prepares s') ∧
      ∀ spec s₂ s₃ before item rest error, element.loop = some spec →
        (loopItems context spec).run s₁ = (.ok (before ++ item :: rest), s₂) →
        (runItems (runOnce context runFile tree (runElement context runFile tree depth inside)
          inside slot element) before).run (s₂.logged ⟨.debug, "Starting loop", inside⟩) =
          (.ok (), s₃) →
        Unprepared context tree chain element (s₃.facts.insert Facts.loopItem item) error →
        ∃ s', (runElement context runFile tree (depth + 1) spans slot).run s =
          (.error error, s') ∧ (s₃.removeFact Facts.loopItem).Prepares s' := by
  obtain ⟨chain, hchain⟩ := tree.exists_around [] slot
  refine ⟨chain, fun found ↦ ⟨hchain.unique, ?_⟩, exists_unprepared_iff context tree chain element,
    ?_, ?_, ?_⟩
  · rintro rfl
    exact hchain
  · intro runFile child spans s error h
    exact runOnce_unprepared hblock hchain runFile child spans h
  · intro runFile child spans s s₁ before item error hbefore h
    exact runItems_unprepared hblock hchain runFile child spans hbefore h
  · intro runFile depth spans inside s s₁ hinside hguards
    constructor
    · intro hloop error h
      have hasked := ((holds_resolves context s inside element.guards).of_run_ok (.refl s)
        hguards).2
      rw [← hasked.facts_eq] at h
      obtain ⟨s', hrun, hprepares⟩ := runOnce_unprepared hblock hchain runFile _ inside h
      refine ⟨s', ?_, (Session.Prepares.of_asked hasked).trans hprepares⟩
      exact (runElement_of_holds runFile depth hget hinside hguards hloop).trans hrun
    · intro spec s₂ s₃ before item rest error hloop hitems hbefore h
      obtain ⟨s', hprepares, hrun⟩ :=
        runItems_unprepared hblock hchain runFile _ inside hbefore h
      refine ⟨s', ?_, hprepares⟩
      exact (runElement_of_items runFile depth hget hinside hguards hloop hitems).trans (hrun rest)

/-- Has an answer to everything as long as the item of the loop is not a number. -/
def numberlessResolver : Resolver := fun text facts ↦
  match facts.get? Facts.loopItem with
  | some (.int _) => .error ⟨text, "a number"⟩
  | _ => .ok text

/-- A loop over a truth value and a number, in a tree made by hand; errors are ignored. -/
def echoingTree : Tree :=
  ⟨#[{ Element.bare none with
    register := some "out"
    ignoreErrors := true
    loop := some (.items [.bool true, .int 2, .bool false])
    task := some ⟨"echo", [("msg", .int 1)]⟩ }], [0]⟩

/-- In the second pass the registered name cannot be resolved; the output of the first stays. -/
theorem execution_fails_unprepared_echoing :
    let context : Context := ⟨.standard, ⟨.ofList [("echo", .echo)]⟩, numberlessResolver, ∅⟩
    ∃ s', (runElement context (runFile context) echoingTree 1 [] 0).run
        (.start .standard (.initial [])) = (.error (.resolve ⟨"out", "a number"⟩), s') ∧
      s'.runs = [.echo] ∧ s'.depth = 0 ∧ s'.facts.get? Facts.loopItem = none ∧
      (s'.facts.get? "out").isSome := by
  intro context
  obtain ⟨element, hget, helement⟩ : ∃ element, echoingTree.get? 0 = some element ∧
    element = echoingTree.elements[0] := ⟨_, rfl, rfl⟩
  have hblock : element.isBlock = false := by
    subst helement
    rfl
  obtain ⟨chain, hchain, -, -, -, hruns⟩ :=
    execution_fails_unprepared context echoingTree 0 element hget hblock
  have hempty : echoingTree.Around [] 0 [] := .climb nofun .top
  obtain rfl := (hchain []).mp hempty
  let begun := (Session.start .standard (.initial [])).logged
    ⟨.debug, "Starting loop", [element.displayName]⟩
  let passed := (runItems (runOnce context (runFile context) echoingTree
    (runElement context (runFile context) echoingTree 0 [element.displayName])
    [element.displayName] 0 element) [.bool true]).run begun
  have hpassed : (passed.1.isOk && (passed.2.runs == [.echo] && passed.2.depth == 0) &&
      (passed.2.facts.get? "out").isSome) = true := by
    subst helement
    decide +kernel
  have hfails : Unprepared context echoingTree [] element
      (passed.2.facts.insert Facts.loopItem (.int 2)) (.resolve ⟨"out", "a number"⟩) := by
    have htexts : textsFor echoingTree [] element = [] ++ "out" :: [] := by
      subst helement
      rfl
    have hnumber : numberlessResolver "out" (passed.2.facts.insert Facts.loopItem (.int 2)) =
        .error ⟨"out", "a number"⟩ := by
      rw [numberlessResolver, SortedMap.get?_insert, if_pos rfl]
    exact .unresolved htexts nofun hnumber
  obtain ⟨hok, hout⟩ := Bool.and_eq_true_iff.mp hpassed
  obtain ⟨hok, hsession⟩ := Bool.and_eq_true_iff.mp hok
  obtain ⟨hran, hdepth⟩ := Bool.and_eq_true_iff.mp hsession
  have hbefore : passed = (.ok (), passed.2) := by
    rcases hrun : passed with ⟨_ | _, s₃⟩
    · rw [hrun] at hok
      cases hok
    · rfl
  have hitems : (loopItems context (.items [.bool true, .int 2, .bool false])).run
      (.start .standard (.initial [])) =
      (.ok ([.bool true] ++ .int 2 :: [.bool false]), .start .standard (.initial [])) := rfl
  have hguards : (holds context [element.displayName] element.guards).run
      (.start .standard (.initial [])) = (.ok true, .start .standard (.initial [])) := by
    subst helement
    rfl
  have hloop : element.loop = some (.items [.bool true, .int 2, .bool false]) := by
    subst helement
    rfl
  obtain ⟨s', hrun, hprepares⟩ := (hruns (runFile context) 0 [] [element.displayName] _ _ rfl
    hguards).2 _ _ passed.2 [.bool true] (.int 2) [.bool false] _ hloop hitems hbefore hfails
  have hfacts (name : String) : s'.facts.get? name =
      if name = Facts.loopItem then none else passed.2.facts.get? name := by
    rw [hprepares.facts]
    exact SortedMap.get?_erase passed.2.facts Facts.loopItem name
  refine ⟨s', hrun, hprepares.runs.trans (eq_of_beq hran),
    hprepares.depth.trans (eq_of_beq hdepth), hfacts Facts.loopItem, ?_⟩
  rw [hfacts, if_neg (by decide)]
  exact hout

end Playbook
