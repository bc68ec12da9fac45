import Playbook.Proofs.Likeness.Basic
import Playbook.Proofs.Settling
import Playbook.Template.Engine

/-!
# What cannot be resolved

A run that fails to resolve a string names it. The guards of an element are resolved before anything
else of it; where one cannot be resolved the element is skipped, and the run goes on. But a snapshot
resolves all strings of an element, so its guards and the source of its loop are resolved again in
each pass of the loop, when the facts have changed. Only strings that can be resolved under some
facts and not under others can stop a run there.
-/

namespace Playbook

open Engine
open Acting (Agree Ensures)
open Resolving (Blames Recites)

/-- Whether the resolver has an answer to the text does not depend on the facts. -/
def Resolver.Steady (resolver : Resolver) (text : String) : Prop :=
  ∀ facts facts', resolver.Resolves facts text → resolver.Resolves facts' text

/-- Errors name the text that could not be resolved. -/
def Resolver.NamesTexts (resolver : Resolver) : Prop :=
  ∀ text facts error, resolver text facts = .error error → error.template = text

theorem Template.resolver_namesTexts : Resolver.NamesTexts Template.resolver := by
  intro text facts error h
  rw [Template.resolver] at h
  split at h
  · cases hrender : Template.render text facts with
    | ok answer =>
      rw [hrender] at h
      cases h
    | error fault =>
      rw [hrender] at h
      obtain rfl := Except.error.inj h
      rfl
  · cases h

/-- The text stands in the tree, and it is more than a guard, or a guard of a loop that can be
resolved under some facts and not under others. -/
structure Tree.Blamed (resolver : Resolver) (tree : Tree) (text : String) : Prop where
  fails : ∃ facts, ¬ resolver.Resolves facts text
  found : ∃ slot element part, tree.get? slot = some element ∧ text ∈ element.strings part ∧
    (part = .guard → element.loop ≠ none ∧ ¬ resolver.Steady text)

variable {context : Context} {tree : Tree} {facts : Facts} {s : Session}

/-- A run of elements fails to resolve only a text that is to blame. -/
def Tree.Explains (context : Context) (tree : Tree) (error : ExecutionError) : Prop :=
  ∀ cause, error = .resolve cause → tree.Blamed context.resolver cause.template

theorem Tree.explains_of_ne {error : ExecutionError} (h : ∀ cause, error ≠ .resolve cause) :
    tree.Explains context error :=
  fun cause hcause ↦ absurd hcause (h cause)

theorem Resolver.not_resolves_of_error {resolver : Resolver} {text : String} {error : ResolveError}
    (h : resolver text facts = .error error) : ¬ resolver.Resolves facts text := by
  rintro ⟨answer, hanswer⟩
  cases h.symm.trans hanswer

/-- The sessions differ only in what was asked and logged. -/
def Session.Asked (s s' : Session) : Prop :=
  ∃ calls log, s' = { s with journal := { s.journal with calls, log } }

namespace Session.Asked

protected theorem refl (s : Session) : s.Asked s :=
  ⟨s.journal.calls, s.journal.log, rfl⟩

theorem facts_eq {s' : Session} (h : s.Asked s') : s'.facts = s.facts := by
  obtain ⟨_, _, rfl⟩ := h
  rfl

theorem withCalls {s' : Session} (h : s.Asked s') (calls : List String) :
    s.Asked (s'.withCalls calls) := by
  obtain ⟨_, log, rfl⟩ := h
  exact ⟨calls, log, rfl⟩

theorem logged {s' : Session} (h : s.Asked s') (entry : LogEntry) : s.Asked (s'.logged entry) := by
  obtain ⟨calls, log, rfl⟩ := h
  exact ⟨calls, entry :: log, rfl⟩

end Session.Asked

namespace Engine

theorem resolving_blames {α : Type} {resolve : Scope → Resolving α} {G : String → Prop}
    {Q : α → Prop}
    (h : Blames ⟨context.resolver, s.facts⟩ G (resolve ⟨context.resolver, s.facts⟩) Q) :
    Ensures s.Asked (Acting.resolving context resolve) (fun value s' ↦ Q value ∧ s.Asked s')
      (fun error s' ↦ (∃ text, G text ∧ context.resolver text s.facts = .error error) ∧
        s.Asked s') := by
  intro s' hs'
  rw [← hs'.facts_eq] at h ⊢
  have hrun := resolving_run context resolve s'
  have hresult := h (.start s'.journal.calls)
  rcases hresolve : ((resolve ⟨context.resolver, s'.facts⟩).run (.start s'.journal.calls)).1 with
    error | value
  · rw [hresolve] at hrun hresult
    exact .inr ⟨error, _, hrun, hrun, hresult, hs'.withCalls _⟩
  · rw [hresolve] at hrun hresult
    exact .inl ⟨value, _, hrun, hrun, hresult, hs'.withCalls _⟩

/-- Guards never fail, and they hold only if all can be resolved. -/
theorem holds_resolves (context : Context) (s : Session) (spans guards : List String) :
    Ensures s.Asked (holds context spans guards)
      (fun passed s' ↦
        (passed = true → ∀ guard ∈ guards, context.resolver.Resolves s.facts guard) ∧ s.Asked s')
      (fun _ _ ↦ False) := by
  induction guards with
  | nil => exact Agree.pure fun _ hs ↦ ⟨fun _ ↦ nofun, hs⟩
  | cons guard rest ih =>
    have hguard : Ensures (ε := ExecutionError) s.Asked
        (Acting.attempt (Acting.resolving context (Resolving.text · guard)))
        (fun result s' ↦
          (∀ answer, result = .ok answer → context.resolver.Resolves s.facts guard) ∧ s.Asked s')
        (fun _ _ ↦ False) := by
      have hasked : Ensures s.Asked (Acting.resolving context (Resolving.text · guard)) _ _ :=
        resolving_blames (Recites.text ⟨context.resolver, s.facts⟩ guard).settles
      refine Agree.attempt (hasked.imp (fun value s' hs ↦ ?_) fun _ _ hs ↦ ⟨nofun, hs.2⟩)
      exact ⟨fun _ _ ↦ hs.1 guard (List.mem_singleton_self guard), hs.2⟩
    refine hguard.bind fun result ↦ Agree.of_fact fun htold ↦ ?_
    split
    · exact Agree.pure fun _ hs ↦ ⟨nofun, hs⟩
    · next answer _ =>
      refine ih.imp_ok fun passed s' hs ↦ ⟨fun hpassed found hmem ↦ ?_, hs.2⟩
      rcases List.mem_cons.mp hmem with rfl | hlater
      · exact htold answer rfl
      · exact hs.1 hpassed found hlater
    · have hlog : Ensures (ε := ExecutionError) s.Asked
          (Acting.log spans .warn "Condition failed to resolve, skipping element")
          (fun _ ↦ s.Asked) (fun _ _ ↦ False) := Agree.log fun _ hs ↦ hs.logged _
      exact hlog.bind fun _ ↦ Agree.pure fun _ hs ↦ ⟨nofun, hs⟩

/-- Where the items of a loop can be told, every string of their source can be resolved. -/
theorem loopItems_resolves (s : Session) (spec : LoopSpec) :
    Ensures s.Asked (loopItems context spec)
      (fun _ _ ↦ ∀ text ∈ spec.leaves, context.resolver.Resolves s.facts text)
      (fun error _ ↦ ∀ cause, error = .resolve cause →
        ∃ text ∈ spec.leaves, context.resolver text s.facts = .error cause) := by
  have hspec : Ensures s.Asked
      (Acting.because ExecutionError.resolve (Acting.resolving context (spec.resolve ·)))
      (fun _ _ ↦ ∀ text ∈ spec.leaves, context.resolver.Resolves s.facts text)
      (fun error _ ↦ ∀ cause, error = .resolve cause →
        ∃ text ∈ spec.leaves, context.resolver text s.facts = .error cause) := by
    have hasked : Ensures s.Asked (Acting.resolving context (spec.resolve ·)) _ _ :=
      resolving_blames (Recites.loop ⟨context.resolver, s.facts⟩ spec).settles
    refine Agree.because (hasked.imp (fun _ _ hs ↦ hs.1) ?_)
    rintro error _ ⟨htold, -⟩ cause hcause
    obtain rfl := ExecutionError.resolve.inj hcause
    exact htold
  refine hspec.bind fun resolved ↦ ?_
  cases resolved with
  | items values => exact Agree.pure fun _ hs ↦ hs
  | var rendered =>
    dsimp only
    cases Json.parseList rendered with
    | ok values => exact Agree.pure fun _ hs ↦ hs
    | error reason => exact Agree.throw fun _ _ ↦ nofun

/-- From every session, the errors of a computation are as `P` says. -/
abbrev FailsOnly {ε α : Type} (P : ε → Prop) (x : Acting ε α) : Prop :=
  Ensures (fun _ ↦ True) x (fun _ _ ↦ True) fun error _ ↦ P error

theorem failsOnly_true {ε α : Type} (x : Acting ε α) : FailsOnly (fun _ ↦ True) x := by
  intro s _
  rcases hrun : x.run s with ⟨error | value, s'⟩
  · exact .inr ⟨error, s', rfl, rfl, trivial⟩
  · exact .inl ⟨value, s', rfl, rfl, trivial⟩

/-- A task fails as a task. -/
theorem dispatch_ne_resolve (runFile : RunFile) (spans : List String) (element : Element)
    (environment : Environment) :
    FailsOnly (∀ cause, · ≠ .resolve cause)
      (dispatch context runFile spans element environment) := by
  have hlog (level : Level) (message : String) :
      FailsOnly (∀ cause, · ≠ ExecutionError.resolve cause) (Acting.log spans level message) :=
    Agree.log fun _ _ ↦ trivial
  have hnote (event : TaskEvent) :
      FailsOnly (∀ cause, · ≠ ExecutionError.resolve cause) (Acting.note event) :=
    Agree.modify fun _ _ ↦ trivial
  have hstore (output : Option Json) :
      FailsOnly (∀ cause, · ≠ .resolve cause) (store spans element output) := by
    unfold store
    split
    · exact (hlog .debug _).bind fun _ ↦ Agree.modify fun _ _ ↦ trivial
    · exact Agree.pure fun _ _ ↦ trivial
  unfold dispatch
  cases element.task with
  | none => exact Agree.throw fun _ _ ↦ nofun
  | some invocation =>
    dsimp only
    cases context.registry.find invocation.kind with
    | error error => exact Agree.throw fun _ _ ↦ nofun
    | ok kind =>
      refine (hlog .info _).bind fun _ ↦ (hnote _).bind fun _ ↦ ?_
      cases Task.init kind ⟨some invocation, environment⟩ with
      | error error => exact Agree.throw fun _ _ ↦ nofun
      | ok task =>
        have hattempt : FailsOnly (∀ cause, · ≠ ExecutionError.resolve cause)
            (Acting.attempt (task.run context spans (runFile spans))) :=
          Agree.attempt (failsOnly_true _)
        have hrun : FailsOnly (∀ cause, · ≠ .resolve cause)
            (runTask context runFile spans element invocation.kind task) := by
          refine (hnote _).bind fun _ ↦ hattempt.bind fun result ↦ ?_
          cases result with
          | ok output => exact Agree.pure fun _ _ ↦ trivial
          | error error =>
            dsimp only
            split
            · exact (hlog .warn _).bind fun _ ↦ Agree.pure fun _ _ ↦ trivial
            · exact Agree.throw fun _ _ ↦ nofun
        exact hrun.bind fun output ↦ hstore output

/-! ## Elements -/

/-- The guards can be resolved now, or the element has a loop and each could be before it. -/
def GuardsResolve (resolver : Resolver) (element : Element) (facts : Facts) : Prop :=
  (∀ guard ∈ element.guards, resolver.Resolves facts guard) ∨
    element.loop ≠ none ∧ ∀ guard ∈ element.guards, ∃ before, resolver.Resolves before guard

variable (hnames : context.resolver.NamesTexts)

include hnames

theorem explains_of_source {slot : Slot} {element : Element} {spec : LoopSpec}
    (hget : tree.get? slot = some element) (hloop : element.loop = some spec)
    {error : ExecutionError} (h : ∀ cause, error = .resolve cause →
      ∃ text ∈ spec.leaves, context.resolver text facts = .error cause) :
    tree.Explains context error := by
  rintro cause rfl
  obtain ⟨text, hmem, hfails⟩ := h cause rfl
  rw [hnames text facts cause hfails]
  refine ⟨⟨facts, Resolver.not_resolves_of_error hfails⟩, slot, element, .source, hget, ?_, nofun⟩
  rwa [Element.strings, hloop]

/-- A snapshot cannot be stopped by a guard that can be resolved at the same moment. -/
theorem snapshot_explains {slot : Slot} {element : Element} (hget : tree.get? slot = some element)
    (hguards : GuardsResolve context.resolver element s.facts) :
    Ensures s.Asked
      (Acting.because ExecutionError.resolve
        (Acting.resolving context (snapshot tree slot element)))
      (fun _ _ ↦ True) (fun error _ ↦ tree.Explains context error) := by
  have hasked : Ensures s.Asked (Acting.resolving context (snapshot tree slot element)) _ _ :=
    resolving_blames (snapshot_blames ⟨context.resolver, s.facts⟩ tree slot element)
  refine Agree.because (hasked.imp (fun _ _ _ ↦ trivial) ?_)
  rintro error _ ⟨⟨text, hplace, hfails⟩, -⟩ cause hcause
  obtain rfl := ExecutionError.resolve.inj hcause
  have hunresolved := Resolver.not_resolves_of_error hfails
  rw [hnames text s.facts error hfails]
  refine ⟨⟨s.facts, hunresolved⟩, ?_⟩
  rcases hplace with hmem | ⟨above, found, habove, hmem⟩
  · obtain ⟨part, hpart⟩ := Element.mem_leaves.mp hmem
    refine ⟨slot, element, part, hget, hpart, ?_⟩
    rintro rfl
    -- A guard fails here only in a pass of a loop, after it was resolved under other facts.
    rcases hguards with hnow | ⟨hloop, hbefore⟩
    · exact absurd (hnow text hpart) hunresolved
    · obtain ⟨before, hresolves⟩ := hbefore text hpart
      exact ⟨hloop, fun hsteady ↦ hunresolved (hsteady before s.facts hresolves)⟩
  · exact ⟨above, found, .variable, habove, hmem, nofun⟩

theorem runOnce_explains {slot : Slot} {element : Element} (hget : tree.get? slot = some element)
    (hguards : GuardsResolve context.resolver element s.facts) (runFile : RunFile)
    (spans : List String) {child : Slot → Run}
    (hchild : ∀ slot, FailsOnly (tree.Explains context) (child slot)) :
    Ensures s.Asked (runOnce context runFile tree child spans slot element) (fun _ _ ↦ True)
      (fun error _ ↦ tree.Explains context error) := by
  refine (snapshot_explains hnames hget hguards).bind fun found ↦ ?_
  obtain ⟨resolved, environment⟩ := found
  dsimp only
  split
  · exact Upheld.runAll fun child _ ↦ hchild child
  · exact (dispatch_ne_resolve runFile spans resolved environment).imp_bad fun error _ h ↦
      Tree.explains_of_ne h

omit hnames in
theorem runItems_explains {once : Run} (honce : FailsOnly (tree.Explains context) once)
    (items : List Json) : FailsOnly (tree.Explains context) (runItems once items) := by
  induction items with
  | nil => exact Agree.pure fun _ _ ↦ trivial
  | cons item rest ih =>
    have hchange (change : Session → Session) (fact : Prop) : Ensures (ε := ExecutionError)
        (fun _ ↦ fact) (modify change) (fun _ _ ↦ fact)
        (fun error _ ↦ tree.Explains context error) := Agree.modify fun _ hs ↦ hs
    have hattempt : Ensures (ε := ExecutionError) (fun _ ↦ True) (Acting.attempt once)
        (fun result _ ↦ ∀ error, result = .error error → tree.Explains context error)
        (fun error _ ↦ tree.Explains context error) := by
      refine Agree.attempt (honce.imp (fun _ _ _ ↦ nofun) fun error s hs found hfound ↦ ?_)
      obtain rfl := Except.error.inj hfound
      exact hs
    refine (hchange _ True).bind fun _ ↦ hattempt.bind fun result ↦ (hchange _ _).bind fun _ ↦ ?_
    cases result with
    | ok _ => exact ih.of_imp fun _ _ ↦ trivial
    | error error => exact Agree.throw fun _ hs ↦ hs error rfl

/-- An element fails to resolve only what is to blame. -/
theorem runElement_explains (runFile : RunFile) (depth : Nat) : ∀ spans slot,
    FailsOnly (tree.Explains context) (runElement context runFile tree depth spans slot) := by
  induction depth with
  | zero => exact fun _ _ ↦ Agree.throw fun _ _ ↦ Tree.explains_of_ne fun _ hsame ↦ by cases hsame
  | succ depth ih =>
    intro spans slot
    rw [runElement]
    cases hget : tree.get? slot with
    | none => exact Agree.throw fun _ _ ↦ Tree.explains_of_ne fun _ hsame ↦ by cases hsame
    | some element =>
      let once := runOnce context runFile tree
        (runElement context runFile tree depth (spans ++ [element.displayName]))
        (spans ++ [element.displayName]) slot element
      have honce (s : Session) (hguards : GuardsResolve context.resolver element s.facts) :
          Ensures s.Asked once (fun _ _ ↦ True) (fun error _ ↦ tree.Explains context error) :=
        runOnce_explains hnames hget hguards runFile _ fun child ↦ ih _ child
      have hlog (level : Level) (message : String) (pre : Session → Prop) :
          Ensures (ε := ExecutionError) pre
            (Acting.log (spans ++ [element.displayName]) level message) (fun _ _ ↦ True)
            (fun error _ ↦ tree.Explains context error) := Agree.log fun _ _ ↦ trivial
      -- All is said from the session `s` in which the guards are tried, as only then is it known
      -- under which facts they were resolved.
      rintro s -
      have hholds := holds_resolves context s (spans ++ [element.displayName]) element.guards
      refine Agree.bind (hholds.imp_bad fun _ _ ↦ False.elim)
        (fun passed ↦ Agree.of_fact fun hpassed ↦ ?_) s (.refl s)
      cases passed with
      | false => exact hlog .debug _ _
      | true =>
        simp only [if_true]
        have hguards := hpassed rfl
        cases hloop : element.loop with
        | none => exact honce s (.inl hguards)
        | some spec =>
          have hbefore : element.loop ≠ none ∧
              ∀ guard ∈ element.guards, ∃ before, context.resolver.Resolves before guard := by
            refine ⟨?_, fun guard hmem ↦ ⟨s.facts, hguards guard hmem⟩⟩
            rw [hloop]
            exact Option.some_ne_none spec
          have hany : FailsOnly (tree.Explains context) once :=
            fun s' _ ↦ honce s' (.inr hbefore) s' (.refl s')
          refine ((loopItems_resolves s spec).imp_bad fun error _ h ↦
            explains_of_source hnames hget hloop h).bind fun items ↦ ?_
          exact (hlog .debug _ _).bind fun _ ↦ runItems_explains hany items

theorem runTree_explains (runFile : RunFile) (spans : List String) (tree : Tree) :
    FailsOnly (tree.Explains context) (runTree context runFile spans tree) :=
  Upheld.runAll fun root _ ↦ runElement_explains hnames runFile _ spans root

omit hnames in
/-- Where a guard cannot be resolved the element is skipped. -/
theorem runElement_skips {slot : Slot} {element : Element} (hget : tree.get? slot = some element)
    {guard : String} (hmem : guard ∈ element.guards)
    (hguard : ¬ context.resolver.Resolves s.facts guard) (runFile : RunFile) (depth : Nat)
    (spans : List String) : ∃ s',
      (runElement context runFile tree (depth + 1) spans slot).run s = (.ok (), s') ∧
        s.Asked s' := by
  have hskips : Ensures s.Asked (runElement context runFile tree (depth + 1) spans slot)
      (fun _ ↦ s.Asked) (fun _ _ ↦ False) := by
    rw [runElement, hget]
    refine (holds_resolves context s (spans ++ [element.displayName]) element.guards).bind
      fun passed ↦ Agree.of_fact fun hpassed ↦ ?_
    cases passed with
    | false => exact Agree.log fun _ hs ↦ hs.logged _
    | true => exact absurd (hpassed rfl guard hmem) hguard
  rcases hskips s (.refl s) with ⟨_, s', hrun, -, hasked⟩ | ⟨_, _, -, -, hfalse⟩
  · exact ⟨s', hrun, hasked⟩
  · exact hfalse.elim

end Engine

/-! ## Whole runs -/

/-- The tree that a run starts with. -/
def Entry.Starts (context : Context) (files : FileSystem) (tree : Tree) : Entry → Prop
  | .text content => Document.ofText context.registry content = .ok tree
  | .file path | .playbook path => ∃ text,
    files.readText (context.settings.locate path) = .ok text ∧
      Document.ofText context.registry text = .ok tree

/-- A run fails to resolve only a text that is to blame in the tree it started with. -/
def Entry.Explains (context : Context) (files : FileSystem) (entry : Entry)
    (error : ExecutionError) : Prop :=
  ∀ cause, error = .resolve cause → ∃ tree, entry.Starts context files tree ∧
    tree.Blamed context.resolver cause.template

theorem Tree.Explains.of_starts {files : FileSystem} {entry : Entry} {error : ExecutionError}
    (h : tree.Explains context error) (hstarts : entry.Starts context files tree) :
    entry.Explains context files error :=
  fun cause hcause ↦ ⟨tree, hstarts, h cause hcause⟩

theorem Engine.loadTree_reads (context : Context) (files : FileSystem) (path : FilePath) :
    Ensures (·.files = files) (loadTree context path)
      (fun tree _ ↦ ∃ text, files.readText path = .ok text ∧
        Document.ofText context.registry text = .ok tree) (fun _ _ ↦ True) := by
  have hread : Ensures (·.files = files)
      (Acting.because (ParseError.io path) (Acting.readText path))
      (fun text _ ↦ files.readText path = .ok text) (fun _ _ ↦ True) := by
    refine Agree.because ?_
    rintro s rfl
    have hrun : (Acting.readText path).run s = _ := readFor_run .playbook path s
    rcases hcontent : s.files.readText path with fault | text
    · rw [hcontent] at hrun
      exact .inr ⟨fault, _, hrun, hrun, trivial⟩
    · rw [hcontent] at hrun
      exact .inl ⟨text, _, hrun, hrun, rfl⟩
  refine hread.bind fun text ↦ ?_
  cases hparse : Document.ofText context.registry text with
  | ok tree => exact Agree.pure fun _ hs ↦ ⟨text, hs, hparse⟩
  | error error => exact Agree.throw fun _ _ ↦ trivial

/-- Of the files that a run opens only the first can fail to resolve: errors in others arrive
wrapped. -/
theorem Engine.runFileWithin_explains (hnames : context.resolver.NamesTexts) (remaining : Nat)
    (spans : List String) (path : FilePath) (files : FileSystem) :
    Ensures (·.files = files) (runFileWithin context remaining spans path) (fun _ _ ↦ True)
      (fun error _ ↦ (Entry.file path).Explains context files error) := by
  let bad (error : ExecutionError) (_ : Session) : Prop :=
    (Entry.file path).Explains context files error
  cases remaining with
  | zero => exact Agree.throw fun _ _ ↦ nofun
  | succ remaining =>
    have hload : Ensures (·.files = files)
        (Acting.because .parse (loadTree context (context.settings.locate path)))
        (fun tree _ ↦ (Entry.file path).Starts context files tree) bad :=
      Agree.because ((loadTree_reads context files _).imp_bad fun _ _ _ ↦ nofun)
    have hlog (level : Level) (message : String) (fact : Session → Prop)
        (hfact : ∀ s entry, fact s → fact (s.logged entry)) :
        Ensures fact (Acting.log spans level message) (fun _ ↦ fact) bad :=
      Agree.log fun s hs ↦ hfact s _ hs
    rw [runFileWithin_succ]
    refine Agree.get_bind_of_pre fun s _ ↦ ?_
    split
    · exact Agree.throw fun _ _ ↦ nofun
    · refine (hlog .info _ _ fun _ _ hs ↦ hs).bind fun _ ↦ hload.bind fun tree ↦ ?_
      refine (hlog .debug _ _ fun _ _ hs ↦ hs).bind fun _ s' hstarts ↦ ?_
      have hopen : Ensures (fun _ ↦ True) (modify fun s ↦ { s with depth := s.depth + 1 })
          (fun _ _ ↦ True) bad := Agree.modify fun _ _ ↦ trivial
      refine (hopen.bind fun _ ↦
        Agree.rethrow ⟨fun _ ↦ rfl, fun _ ↦ rfl⟩ ⟨fun _ ↦ rfl, fun _ ↦ rfl⟩ ?_) s' trivial
      exact (runTree_explains hnames _ spans tree).imp_bad fun _ _ h ↦ h.of_starts hstarts

theorem Entry.execute_explains (hnames : context.resolver.NamesTexts) (entry : Entry)
    (files : FileSystem) :
    Ensures (·.files = files) (entry.execute context) (fun _ _ ↦ True)
      (fun error _ ↦ entry.Explains context files error) := by
  cases entry with
  | text content =>
    change Ensures _ (executeText context content) _ _
    unfold executeText
    cases hparse : Document.ofText context.registry content with
    | error error => exact Agree.throw fun _ _ ↦ nofun
    | ok tree =>
      refine (runTree_explains hnames (runFile context) [] tree).mono (fun _ _ ↦ trivial)
        (fun _ _ _ ↦ trivial) fun error _ h ↦ h.of_starts hparse
  | file path => exact runFileWithin_explains hnames _ [] path files
  | playbook path =>
    let bad (error : ExecutionError) : Prop := (Entry.playbook path).Explains context files error
    have hlog (level : Level) (message : String) (fact : Session → Prop)
        (hfact : ∀ s entry, fact s → fact (s.logged entry)) :
        Ensures fact (Acting.log [] level message) (fun _ ↦ fact) (fun error _ ↦ bad error) :=
      Agree.log fun s hs ↦ hfact s _ hs
    have hfile : Ensures (ε := ExecutionError) (·.files = files)
        (Acting.attempt (executeFile context path))
        (fun result _ ↦ ∀ error, result = .error error → bad error) (fun error _ ↦ bad error) := by
      refine Agree.attempt ((runFileWithin_explains hnames _ [] path files).imp
        (fun _ _ _ ↦ nofun) fun error _ h found hfound ↦ ?_)
      obtain rfl := Except.error.inj hfound
      exact h
    refine (hlog .info _ _ fun _ _ hs ↦ hs).bind fun _ ↦ hfile.bind fun result ↦ ?_
    cases result with
    | ok _ => exact (hlog .info _ _ fun _ _ hs ↦ hs).imp_ok fun _ _ _ ↦ trivial
    | error error =>
      exact (hlog .error _ _ fun _ _ hs ↦ hs).bind fun _ ↦ Agree.throw fun _ hs ↦ hs error rfl

/-- Errors of resolving name strings that stand in the tree the run started with, or in the tree of
any file while that is run. A string that is only a guard is named only if it guards a loop and can
be resolved under some facts but not under others; and in a pass of a loop a string of the source of
that loop is named only if this is so. Apart from that, a guard that cannot be resolved just makes
its element be skipped. -/
theorem execute_unresolved (context : Context) (hnames : context.resolver.NamesTexts) :
    (∀ (entry : Entry) s cause s', (entry.execute context).run s = (.error (.resolve cause), s') →
      ∃ tree, entry.Starts context s.files tree ∧
        tree.Blamed context.resolver cause.template) ∧
    (∀ runFile spans (tree : Tree) s cause s',
      (runTree context runFile spans tree).run s = (.error (.resolve cause), s') →
      tree.Blamed context.resolver cause.template) ∧
    ∀ runFile (tree : Tree) depth slot element, tree.get? slot = some element → ∀ spans,
      (∀ spec, element.loop = some spec → ∀ s₀ s₁ items s₂,
        (holds context spans element.guards).run s₀ = (.ok true, s₁) →
        (loopItems context spec).run s₁ = (.ok items, s₂) → ∀ s cause s',
        (runOnce context runFile tree (runElement context runFile tree depth spans) spans slot
          element).run s = (.error (.resolve cause), s') →
        tree.Blamed context.resolver cause.template ∧
          (cause.template ∈ spec.leaves → ¬ context.resolver.Steady cause.template)) ∧
      ∀ guard ∈ element.guards, ∀ s, ¬ context.resolver.Resolves s.facts guard → ∃ s',
        (runElement context runFile tree (depth + 1) spans slot).run s = (.ok (), s') ∧
          s.Asked s' := by
  refine ⟨fun entry s cause s' hrun ↦ ?_, fun runFile spans tree s cause s' hrun ↦ ?_,
    fun runFile tree depth slot element hget spans ↦ ⟨?_, fun guard hmem s hguard ↦ ?_⟩⟩
  · exact (entry.execute_explains hnames s.files).of_run_error rfl hrun cause rfl
  · exact (runTree_explains hnames runFile spans tree).of_run_error trivial hrun cause rfl
  · intro spec hloop s₀ s₁ items s₂ hholds hitems s cause s' hrun
    have hguards := (holds_resolves context s₀ spans element.guards).of_run_ok (.refl s₀) hholds
    have hsource := (loopItems_resolves s₁ spec).of_run_ok (.refl s₁) hitems
    have hbefore : GuardsResolve context.resolver element s.facts := by
      refine .inr ⟨?_, fun guard hmem ↦ ⟨s₀.facts, hguards.1 rfl guard hmem⟩⟩
      rw [hloop]
      exact Option.some_ne_none spec
    have hblamed := (runOnce_explains hnames hget hbefore runFile spans fun child ↦
      runElement_explains hnames runFile depth spans child).of_run_error (.refl s) hrun cause rfl
    refine ⟨hblamed, fun hmem hsteady ↦ ?_⟩
    obtain ⟨facts, hfails⟩ := hblamed.fails
    exact hfails (hsteady s₁.facts facts (hsource _ hmem))
  · exact runElement_skips hget hmem hguard runFile depth spans

/-! ## A guard that stops a run -/

/-- A guard that can be resolved as long as there is no item. -/
def itemlessGuard : String :=
  Template.ofCondition "item is undefined or item.a.b"

/-- A loop with that guard around a task that is skipped in each pass. -/
def itemlessNode : Yaml.Node :=
  .seq [.map [
    (.str "block", .seq [.map [(.str "set_fact", .map []),
      (.str "when", .str "item is undefined")]]),
    (.str "loop", .map [(.str "items", .seq [.int 1])]),
    (.str "when", .str "item is undefined or item.a.b")]]

def itemlessElement : Element :=
  { Element.bare none with
    guards := [itemlessGuard]
    loop := some (.items [.int 1])
    block := [1] }

def itemlessTree : Tree :=
  ⟨#[itemlessElement, { Element.bare (some 0) with
    guards := [Template.ofCondition "item is undefined"]
    task := some ⟨"set_fact", []⟩ }], [0]⟩

/-- Whether a run failed to resolve the text. -/
def stopsAt (text : String) : Except ExecutionError Unit → Bool
  | .error (.resolve cause) => cause.template == text
  | _ => false

theorem eq_of_stopsAt {text : String} {result : Except ExecutionError Unit}
    (h : stopsAt text result = true) :
    ∃ cause, result = .error (.resolve cause) ∧ cause.template = text := by
  unfold stopsAt at h
  split at h
  · next cause => exact ⟨cause, rfl, eq_of_beq h⟩
  · cases h

theorem itemlessTree_strings {slot : Slot} {element : Element} {part : Element.Part}
    (hget : itemlessTree.get? slot = some element) (hmem : itemlessGuard ∈ element.strings part) :
    part = .guard := by
  obtain ⟨hslot, rfl⟩ := Array.getElem?_eq_some_iff.mp hget
  obtain rfl | rfl : slot = 0 ∨ slot = 1 :=
    Nat.le_one_iff_eq_zero_or_eq_one.mp (Nat.le_of_lt_succ hslot)
  all_goals
    cases part
    case guard => rfl
    all_goals exact absurd hmem List.not_mem_nil

/-- Runs that resolve templates and know these kinds of tasks. -/
def templateContext (registry : Registry) : Context :=
  ⟨.standard, registry, Template.resolver, ∅⟩

/-- The guard passes before the loop, and stops the run in its first pass; nowhere else does it
stand. -/
theorem execute_stopped_by_guard : ∃ registry cause s',
    Registry.ofKinds TaskKind.standard = .ok registry ∧
      Document.ofNode registry itemlessNode = .ok itemlessTree ∧
      (executeTree (templateContext registry) itemlessTree).run (.start .standard (.initial [])) =
        (.error (.resolve cause), s') ∧
      ∀ slot element part, itemlessTree.get? slot = some element →
        cause.template ∈ element.strings part → part = .guard := by
  have hrun : ∃ registry, Registry.ofKinds TaskKind.standard = .ok registry ∧
      Document.ofNode registry itemlessNode = .ok itemlessTree ∧
      stopsAt itemlessGuard ((executeTree (templateContext registry) itemlessTree).run
        (.start .standard (.initial []))).1 = true := by
    refine ⟨_, rfl, rfl, ?_⟩
    decide +kernel
  obtain ⟨registry, hregistry, hread, hstops⟩ := hrun
  rcases hrun : (executeTree (templateContext registry) itemlessTree).run
    (.start .standard (.initial [])) with ⟨result, s'⟩
  rw [hrun] at hstops
  obtain ⟨cause, rfl, htemplate⟩ := eq_of_stopsAt hstops
  refine ⟨registry, cause, s', hregistry, hread, hrun, ?_⟩
  rw [htemplate]
  exact fun slot element part ↦ itemlessTree_strings

def itemlessText : String :=
  "- block:\n  - set_fact: \x7b\x7d\n    when: item is undefined\n" ++
    "  loop: \x7bitems: [1]\x7d\n  when: item is undefined or item.a.b\n"

/-- A session in a pass of a loop. -/
def itemSession : Session :=
  (Session.start .standard (.initial [])).setFact Facts.loopItem (.int 1)

theorem itemlessGuard_unresolved :
    ¬ Template.resolver.Resolves itemSession.facts itemlessGuard := by
  have hfails : (Template.resolver itemlessGuard itemSession.facts).isOk = false := by
    decide +kernel
  rintro ⟨answer, hanswer⟩
  rw [hanswer] at hfails
  cases hfails

/-- The guard is named by the run of a text and in a pass of its loop; in a session with an item its
element is skipped. -/
theorem execute_unresolved_itemless : ∃ registry,
    Registry.ofKinds TaskKind.standard = .ok registry ∧ Template.resolver.NamesTexts ∧
    (∃ cause s' tree, ((Entry.text itemlessText).execute (templateContext registry)).run
        (.start .standard (.initial [])) = (.error (.resolve cause), s') ∧
      (Entry.text itemlessText).Starts (templateContext registry) (.initial []) tree ∧
      tree.Blamed Template.resolver cause.template) ∧
    (∃ cause s', (runOnce (templateContext registry) (fun _ _ ↦ pure ()) itemlessTree
        (runElement (templateContext registry) (fun _ _ ↦ pure ()) itemlessTree 0 []) [] 0
        itemlessElement).run itemSession = (.error (.resolve cause), s') ∧
      itemlessTree.Blamed Template.resolver cause.template) ∧
    ∃ s', (runElement (templateContext registry) (fun _ _ ↦ pure ()) itemlessTree 1 [] 0).run
        itemSession = (.ok (), s') ∧ itemSession.Asked s' := by
  have hruns : ∃ registry, Registry.ofKinds TaskKind.standard = .ok registry ∧
      stopsAt itemlessGuard (((Entry.text itemlessText).execute (templateContext registry)).run
        (.start .standard (.initial []))).1 = true ∧
      ((holds (templateContext registry) [] [itemlessGuard]).run
        (.start .standard (.initial []))).1.toOption = some true ∧
      ((loopItems (templateContext registry) (.items [.int 1])).run
        ((holds (templateContext registry) [] [itemlessGuard]).run
          (.start .standard (.initial []))).2).1.isOk = true ∧
      stopsAt itemlessGuard ((runOnce (templateContext registry) (fun _ _ ↦ pure ()) itemlessTree
        (runElement (templateContext registry) (fun _ _ ↦ pure ()) itemlessTree 0 []) [] 0
        itemlessElement).run itemSession).1 = true := by
    refine ⟨_, rfl, ?_, ?_, ?_, ?_⟩
    · decide +kernel
    · decide +kernel
    · decide +kernel
    · decide +kernel
  obtain ⟨registry, hregistry, hstops, hholds, hitems, hpass⟩ := hruns
  obtain ⟨hentry, -, helement⟩ :=
    execute_unresolved (templateContext registry) Template.resolver_namesTexts
  obtain ⟨hloop, hskip⟩ := helement (fun _ _ ↦ pure ()) itemlessTree 0 0 itemlessElement rfl []
  refine ⟨registry, hregistry, Template.resolver_namesTexts, ?_, ?_,
    hskip itemlessGuard (List.mem_singleton_self itemlessGuard) itemSession
      itemlessGuard_unresolved⟩
  · rcases hrun : ((Entry.text itemlessText).execute (templateContext registry)).run
      (.start .standard (.initial [])) with ⟨result, s'⟩
    rw [hrun] at hstops
    obtain ⟨cause, rfl, -⟩ := eq_of_stopsAt hstops
    obtain ⟨tree, hstarts, hblamed⟩ := hentry _ _ cause s' hrun
    exact ⟨cause, s', tree, rfl, hstarts, hblamed⟩
  · rcases hpassed : (holds (templateContext registry) [] [itemlessGuard]).run
      (.start .standard (.initial [])) with ⟨_ | passed, s₁⟩
    · rw [hpassed] at hholds
      cases hholds
    rw [hpassed] at hholds hitems
    obtain rfl : passed = true := Option.some.inj hholds
    rcases hfound : (loopItems (templateContext registry) (.items [.int 1])).run s₁ with
      ⟨_ | items, s₂⟩
    · rw [hfound] at hitems
      cases hitems
    rcases hrun : (runOnce (templateContext registry) (fun _ _ ↦ pure ()) itemlessTree
      (runElement (templateContext registry) (fun _ _ ↦ pure ()) itemlessTree 0 []) [] 0
      itemlessElement).run itemSession with ⟨result, s'⟩
    rw [hrun] at hpass
    obtain ⟨cause, rfl, -⟩ := eq_of_stopsAt hpass
    exact ⟨cause, s', rfl,
      (hloop _ rfl _ s₁ items s₂ hpassed hfound itemSession cause s' hrun).1⟩

end Playbook
