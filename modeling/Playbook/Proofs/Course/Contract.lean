import Playbook.Proofs.Course.Engine

/-!
# What courses keep

A course is gone through on terms: which writes there are, which calls are made in which sessions,
and how a session may be found after a call. All that the engine does is said once: which call may
make which other, that the depth comes back as it was, and that a contract about the facts is kept
if the tasks write what it allows. A contract may ask for more outside of loops than inside, as far
as a fact that a loop removes is concerned.
-/

namespace Playbook

open Engine
open Acting (Agree Ensures Keeps)
open Calling (act attempt because call callAll write)

structure Terms where
  writes : (looped : Bool) → Write → Prop
  calls : Call → Session → Prop
  /-- How a session that a call is made in is found afterwards. -/
  returns : Call → Session → Session → Prop

/-- On these terms the course makes such calls only, and ends like this. -/
def Course.Meets {α : Type} (terms : Terms) (ends : α → Prop) : Course α → Prop
  | .done value => ends value
  | .write looped told next => terms.writes looped told → next.Meets terms ends
  | .call callee s next => terms.calls callee s ∧
      ∀ reply : Reply, terms.returns callee s reply.2 → (next reply).Meets terms ends

namespace Course.Meets

variable {α β : Type} {terms terms' : Terms} {ends ends' : α → Prop}

theorem bind {course : Course α} {f : α → Course β} {endsNext : β → Prop}
    (h : course.Meets terms ends) (hnext : ∀ value, ends value → (f value).Meets terms endsNext) :
    (course.bind f).Meets terms endsNext := by
  induction course with
  | done value => exact hnext value h
  | write looped told next ih => exact fun hwrite ↦ ih (h hwrite)
  | call callee s next ih => exact ⟨h.1, fun reply hreply ↦ ih reply (h.2 reply hreply)⟩

theorem mono {course : Course α} (h : course.Meets terms ends)
    (hwrites : ∀ looped told, terms'.writes looped told → terms.writes looped told)
    (hcalls : ∀ callee s, terms.calls callee s → terms'.calls callee s)
    (hreturns : ∀ callee s s', terms'.returns callee s s' → terms.returns callee s s')
    (hends : ∀ value, ends value → ends' value) : course.Meets terms' ends' := by
  induction course with
  | done value => exact hends value h
  | write looped told next ih => exact fun hwrite ↦ ih (h (hwrites looped told hwrite))
  | call callee s next ih =>
    exact ⟨hcalls callee s h.1, fun reply hreply ↦ ih reply (h.2 reply (hreturns _ _ _ hreply))⟩

end Course.Meets

namespace Calling

variable {ε ε' α β : Type} {terms : Terms} {pre : Session → Prop} {ok mid : α → Session → Prop}
  {okNext : β → Session → Prop} {bad : ε → Session → Prop}

/-- From every session with `pre` the course meets the terms and ends as `ok` or as `bad` says. -/
def Meets (terms : Terms) (pre : Session → Prop) (x : Calling ε α) (ok : α → Session → Prop)
    (bad : ε → Session → Prop) : Prop :=
  ∀ s, pre s → (x s).Meets terms fun told ↦
    match told.1 with
    | .ok value => ok value told.2
    | .error error => bad error told.2

namespace Meets

protected theorem pure {value : α} (h : ∀ s, pre s → ok value s) :
    Meets terms pre (pure value : Calling ε α) ok bad := h

protected theorem throw {error : ε} (h : ∀ s, pre s → bad error s) :
    Meets terms pre (throw error : Calling ε α) ok bad := h

protected theorem bind {x : Calling ε α} {f : α → Calling ε β} (h : Meets terms pre x mid bad)
    (hnext : ∀ value, Meets terms (mid value) (f value) okNext bad) :
    Meets terms pre (x >>= f) okNext bad := by
  intro s hs
  refine (h s hs).bind fun told htold ↦ ?_
  rcases told with ⟨result, s'⟩
  cases result with
  | ok value => exact hnext value s' htold
  | error error => exact htold

protected theorem act {x : Acting ε α} (h : Ensures pre x ok bad) :
    Meets terms pre (act x) ok bad := by
  intro s hs
  change match (x.run s).1 with
    | .ok value => ok value (x.run s).2
    | .error error => bad error (x.run s).2
  rcases h s hs with ⟨value, s', hrun, -, hok⟩ | ⟨error, s', hrun, -, hbad⟩
  · rw [hrun]
    exact hok
  · rw [hrun]
    exact hbad

protected theorem write {site : Site} {told : Write} {ok : Unit → Session → Prop}
    (h : terms.writes site.looped told → ∀ s, pre s → ok () s) :
    Meets terms pre (write site told : Calling ε Unit) ok bad :=
  fun s hs hwrite ↦ h hwrite s hs

protected theorem call {callee : Call} {ok : Unit → Session → Prop}
    {bad : ExecutionError → Session → Prop} (hcall : ∀ s, pre s → terms.calls callee s)
    (h : ∀ s s', pre s → terms.returns callee s s' → ok () s' ∧ ∀ error, bad error s') :
    Meets terms pre (call callee) ok bad := by
  refine fun s hs ↦ ⟨hcall s hs, fun reply hreply ↦ ?_⟩
  obtain ⟨hok, hbad⟩ := h s reply.2 hs hreply
  rcases reply with ⟨_ | error, s'⟩
  · exact hbad _
  · exact hok

protected theorem attempt {x : Calling ε α} {okAll : Except ε α → Session → Prop}
    {never : ε' → Session → Prop}
    (h : Meets terms pre x (fun value ↦ okAll (.ok value)) (fun error ↦ okAll (.error error))) :
    Meets terms pre (attempt x) okAll never := by
  intro s hs
  refine (h s hs).bind fun told htold ↦ ?_
  rcases told with ⟨_ | _, s'⟩ <;> exact htold

protected theorem because {x : Calling ε α} {wrap : ε → ε'} {bad' : ε' → Session → Prop}
    (h : Meets terms pre x ok (fun error ↦ bad' (wrap error))) :
    Meets terms pre (because wrap x) ok bad' := by
  intro s hs
  refine (h s hs).bind fun told htold ↦ ?_
  rcases told with ⟨_ | _, s'⟩ <;> exact htold

theorem of_fact {fact : Prop} {x : Calling ε α} (h : fact → Meets terms pre x ok bad) :
    Meets terms (fun s ↦ fact ∧ pre s) x ok bad :=
  fun s hs ↦ h hs.1 s hs.2

end Meets

/-- The course keeps an invariant, however it ends. -/
abbrev Maintains (terms : Terms) (I : Session → Prop) (x : Calling ε α) : Prop :=
  Meets terms I x (fun _ ↦ I) fun _ ↦ I

theorem Meets.of_maintains {I : Session → Prop} {x : Calling ε α} (h : x.Maintains terms I)
    {s : Session} (hs : I s) : (x s).Meets terms fun told ↦ I told.2 := by
  refine (h s hs).mono (fun _ _ hwrite ↦ hwrite) (fun _ _ hcall ↦ hcall)
    (fun _ _ _ hreturn ↦ hreturn) fun told htold ↦ ?_
  rcases told with ⟨_ | _, s'⟩ <;> exact htold

end Calling

/-! ## Which call makes which other -/

/-- While so many files are open, the first call may make the second, while so many are. -/
inductive Makes (context : Context) : Call → Nat → Call → Nat → Prop where
  | root {site path text tree root opened} (below : opened < context.settings.includeLimit)
      (parsed : Document.ofText context.registry text = .ok tree) (listed : root ∈ tree.roots) :
      Makes context (.file site path) opened (.element site tree root) (opened + 1)
  | loop {site tree slot element items opened} (found : tree.get? slot = some element) :
      Makes context (.element site tree slot) opened
        (.loop (site.inside element.displayName) tree slot element items) opened
  | once {site tree slot element opened} (found : tree.get? slot = some element) :
      Makes context (.element site tree slot) opened
        (.pass (site.inside element.displayName) tree slot element) opened
  | iteration {site tree slot element item rest opened} :
      Makes context (.loop site tree slot element (item :: rest)) opened
        (.pass site.looping tree slot element) opened
  | rest {site tree slot element item rest opened} :
      Makes context (.loop site tree slot element (item :: rest)) opened
        (.loop site tree slot element rest) opened
  | child {site tree slot element child opened} (listed : child ∈ element.block) :
      Makes context (.pass site tree slot element) opened (.element site tree child) opened
  | task {site tree slot element resolved environment opened} :
      Makes context (.pass site tree slot element) opened (.task site resolved environment) opened
  | file {site element environment path opened} :
      Makes context (.task site element environment) opened (.file site path) opened

/-- A run that starts while so many files are open may make this call, while so many are. -/
def Entry.Makes (context : Context) (opened : Nat) : Entry → Call → Nat → Prop
  | .text content, callee, now => now = opened ∧ ∃ tree root,
      Document.ofText context.registry content = .ok tree ∧ root ∈ tree.roots ∧
        callee = .element .top tree root
  | .file path, callee, now | .playbook path, callee, now =>
    now = opened ∧ callee = .file .top path

/-- Loading a tree keeps what reading a file keeps. -/
theorem Engine.loadTree_keeps {context : Context} {I : Session → Prop}
    (hread : ∀ s reading, I s → I (s.withRead reading)) (path : FilePath) :
    Ensures I (loadTree context path)
      (fun tree s ↦ (∃ text, Document.ofText context.registry text = .ok tree) ∧ I s)
      (fun _ ↦ I) := by
  have htext : Ensures I (Acting.because (ParseError.io path) (Acting.readText path)) (fun _ ↦ I)
      (fun _ ↦ I) := by
    refine Agree.because (Agree.get_bind_of_pre fun s hs ↦ ?_)
    have hset (content : Except FileError String) : Ensures (ε := FileError) I
        (set (s.withRead ⟨.playbook, path, content⟩)) (fun _ ↦ I) (fun _ ↦ I) :=
      Agree.set fun _ _ ↦ hread s _ hs
    refine (hset _).bind fun _ ↦ ?_
    cases s.files.readText path with
    | ok text => exact Agree.pure fun _ hs ↦ hs
    | error fault => exact Agree.throw fun _ hs ↦ hs
  refine htext.bind fun text ↦ ?_
  cases hparse : Document.ofText context.registry text with
  | ok tree => exact Agree.pure fun s hs ↦ ⟨⟨text, hparse⟩, hs⟩
  | error error => exact Agree.throw fun s hs ↦ hs

/-! ## Contracts about the facts -/

/-- What holds of the facts inside and outside of loops, when tasks write what is allowed there. -/
structure Contract where
  holds : (looped : Bool) → Facts → Prop
  allows : (looped : Bool) → Write → Prop
  register : ∀ looped name value facts, allows looped (.register name) → holds looped facts →
    holds looped (facts.insert name value)
  merge : ∀ looped fields facts, allows looped (.merge fields) → holds looped facts →
    holds looped (Facts.merge facts fields)
  bound : ∀ looped item facts, holds looped facts → holds true (facts.insert Facts.loopItem item)
  unbound : ∀ looped facts, holds true facts → holds looped (facts.erase Facts.loopItem)

namespace Contract

/-- Nothing is asked for. -/
def any : Contract where
  holds _ _ := True
  allows _ _ := True
  register _ _ _ _ _ _ := trivial
  merge _ _ _ _ _ := trivial
  bound _ _ _ _ := trivial
  unbound _ _ _ := trivial

/-- So many files are open, and the facts are as they have to be. -/
def Kept (contract : Contract) (looped : Bool) (opened : Nat) (s : Session) : Prop :=
  s.depth = opened ∧ contract.holds looped s.facts

/-- The terms for a course that makes such calls while so many files are open: they find the facts
as the contract says, and keep the depth and the contract. -/
def terms (contract : Contract) (makes : Call → Nat → Prop) : Terms where
  writes := contract.allows
  calls callee s := makes callee s.depth ∧ contract.holds callee.site.looped s.facts
  returns callee s s' := s'.depth = s.depth ∧ contract.holds callee.site.looped s'.facts

variable (contract : Contract) {context : Context} {caller : Call} {looped : Bool} {opened : Nat}
  {makes : Call → Nat → Prop}

theorem steady (context : Context) (looped : Bool) (opened : Nat) :
    Steady context (fun _ ↦ True) (contract.Kept looped opened) :=
  .of_depth_facts context fun depth facts ↦ depth = opened ∧ contract.holds looped facts

/-- In the course of a call, while so many files are open, something keeps the contract. -/
abbrev Upholds {ε α : Type} (context : Context) (caller : Call) (opened : Nat) (x : Calling ε α) :
    Prop :=
  x.Maintains (contract.terms (Makes context caller opened))
    (contract.Kept caller.site.looped opened)

variable {ε α : Type}

/-- What an action keeps that changes no facts, it keeps in the course of a call as well. -/
theorem act_upholds {x : Acting ε α} {ok : α → Session → Prop} {bad : ε → Session → Prop}
    (h : Ensures (contract.Kept caller.site.looped opened) x ok bad)
    (hok : ∀ value s, ok value s → contract.Kept caller.site.looped opened s)
    (hbad : ∀ error s, bad error s → contract.Kept caller.site.looped opened s) :
    contract.Upholds context caller opened (act x) :=
  .act (h.imp hok hbad)

theorem log_upholds (spans : List String) (level : Level) (message : String) :
    contract.Upholds context caller opened
      (act (Acting.log spans level message) : Calling ε Unit) :=
  .act ((contract.steady context _ opened).log spans level message)

theorem throw_upholds (error : ε) :
    contract.Upholds context caller opened (throw error : Calling ε α) :=
  .throw fun _ hs ↦ hs

theorem pure_upholds (value : α) :
    contract.Upholds context caller opened (pure value : Calling ε α) :=
  .pure fun _ hs ↦ hs

/-- A call keeps the contract as it is at its own place. -/
theorem call_maintains {callee : Call} (hmakes : makes callee opened) :
    (call callee).Maintains (contract.terms makes) (contract.Kept callee.site.looped opened) := by
  refine .call (fun s hs ↦ ⟨hs.1.symm ▸ hmakes, hs.2⟩) fun s s' hs hreturn ↦ ?_
  have hs' : contract.Kept callee.site.looped opened s' := ⟨hreturn.1.trans hs.1, hreturn.2⟩
  exact ⟨hs', fun _ ↦ hs'⟩

theorem callAll_maintains {callee : Slot → Call} {slots : List Slot}
    (hcall : ∀ slot ∈ slots, (call (callee slot)).Maintains (contract.terms makes)
      (contract.Kept looped opened)) :
    (callAll callee slots).Maintains (contract.terms makes) (contract.Kept looped opened) := by
  induction slots with
  | nil => exact .pure fun _ hs ↦ hs
  | cons slot rest ih =>
    refine (hcall slot List.mem_cons_self).bind fun _ ↦ ih fun found hmem ↦ ?_
    exact hcall found (List.mem_cons_of_mem _ hmem)

/-! ### Tasks -/

section

variable {site : Site} {element : Element} {environment : Environment}

theorem filesCourse_upholds (files : List FilePath) :
    contract.Upholds context (.task site element environment) opened
      (Task.filesCourse site files) := by
  induction files with
  | nil => exact contract.pure_upholds ()
  | cons file rest ih =>
    have hfile : contract.Upholds context (.task site element environment) opened
        (because (TaskError.include file) (call (.file site file))) :=
      .because (contract.call_maintains Makes.file)
    exact hfile.bind fun _ ↦ ih

/-- Before a task writes it tells so, and what it tells may be assumed to be allowed. -/
theorem write_upholds {told : Write} {x : Acting ε α}
    (h : contract.allows caller.site.looped told → Ensures (contract.Kept caller.site.looped opened)
      x (fun _ ↦ contract.Kept caller.site.looped opened)
      fun _ ↦ contract.Kept caller.site.looped opened) :
    contract.Upholds context caller opened (do
      write caller.site told
      act x) := by
  have hwrite : Calling.Meets (contract.terms (Makes context caller opened))
      (contract.Kept caller.site.looped opened) (write caller.site told : Calling ε Unit)
      (fun _ s ↦ contract.allows caller.site.looped told ∧
        contract.Kept caller.site.looped opened s)
      (fun _ ↦ contract.Kept caller.site.looped opened) :=
    .write fun hallowed _ hs ↦ ⟨hallowed, hs⟩
  exact hwrite.bind fun _ ↦ .of_fact fun hallowed ↦ .act (h hallowed)

theorem course_upholds (task : Task) :
    contract.Upholds context (.task site element environment) opened
      (task.course context site) := by
  have hsteady := contract.steady context site.looped opened
  have hmerge {fields : Config} (hallowed : contract.allows site.looped (.merge fields)) :
      Ensures (contract.Kept site.looped opened)
        (modify (·.mergeFacts fields) : Acting TaskError PUnit)
        (fun _ ↦ contract.Kept site.looped opened) (fun _ ↦ contract.Kept site.looped opened) :=
    Agree.modify fun s hs ↦ ⟨hs.1, contract.merge _ _ _ hallowed hs.2⟩
  have hreturn : Ensures (contract.Kept site.looped opened)
      (return none : Acting TaskError (Option Json)) (fun _ ↦ contract.Kept site.looped opened)
      (fun _ ↦ contract.Kept site.looped opened) := Agree.pure fun _ hs ↦ hs
  by_cases hlocal : task.IsLocal
  · rw [Task.course_of_isLocal hlocal]
    have hkeeps : Keeps (contract.Kept site.looped opened) (·.Arises fun _ ↦ True)
        (task.run context site.spans fun _ ↦ return ()) :=
      hsteady.runLocal site.spans hlocal fun _ _ ↦ trivial
    exact contract.act_upholds hkeeps (fun _ _ hs ↦ hs) fun _ _ hs ↦ hs.2
  · cases task with
    | «include» files =>
      exact (contract.filesCourse_upholds files).bind fun _ ↦ contract.pure_upholds none
    | tryFile path =>
      have hfile : contract.Upholds context (.task site element environment) opened
          (attempt (call (.file site path)) : Calling TaskError (Except ExecutionError Unit)) :=
        .attempt (contract.call_maintains Makes.file)
      exact hfile.bind fun _ ↦ contract.pure_upholds _
    | setFact config =>
      exact contract.write_upholds fun hallowed ↦ (hsteady.log site.spans .debug _).bind fun _ ↦
        (hmerge hallowed).bind fun _ ↦ hreturn
    | mergeFacts config =>
      exact contract.write_upholds fun hallowed ↦ (hmerge hallowed).bind fun _ ↦ hreturn
    | _ => exact (hlocal trivial).elim

theorem readyCourse_upholds (kind : String) (task : Task) :
    contract.Upholds context (.task site element environment) opened
      (readyCourse context site element kind task) := by
  have hsteady := contract.steady context site.looped opened
  have hattempt : contract.Upholds context (.task site element environment) opened
      (attempt (task.course context site) : Calling ExecutionError _) :=
    .attempt (contract.course_upholds task)
  refine Calling.Meets.bind (.act (hsteady.note _)) fun _ ↦ hattempt.bind fun result ↦ ?_
  cases result with
  | ok output => exact contract.pure_upholds output
  | error error =>
    cases element.ignoreErrors with
    | true => exact (contract.log_upholds _ _ _).bind fun _ ↦ contract.pure_upholds none
    | false => exact contract.throw_upholds _

theorem storeCourse_upholds (resolved : Element) (output : Option Json) :
    contract.Upholds context (.task site element environment) opened
      (storeCourse site resolved output) := by
  have hsteady := contract.steady context site.looped opened
  have hset {name : String} {value : Json}
      (hallowed : contract.allows site.looped (.register name)) :
      Ensures (contract.Kept site.looped opened)
        (modify (·.setFact name value) : Acting ExecutionError PUnit)
        (fun _ ↦ contract.Kept site.looped opened) (fun _ ↦ contract.Kept site.looped opened) :=
    Agree.modify fun s hs ↦ ⟨hs.1, contract.register _ _ _ _ hallowed hs.2⟩
  unfold storeCourse store
  cases resolved.register with
  | none => exact contract.pure_upholds ()
  | some name =>
    cases output with
    | none => exact contract.pure_upholds ()
    | some value =>
      exact contract.write_upholds fun hallowed ↦
        (hsteady.log site.spans .debug _).bind fun _ ↦ hset hallowed

theorem taskCourse_upholds :
    contract.Upholds context (.task site element environment) opened
      (taskCourse context site element environment) := by
  have hsteady := contract.steady context site.looped opened
  unfold taskCourse
  cases element.task with
  | none => exact contract.throw_upholds _
  | some invocation =>
    dsimp only
    cases context.registry.find invocation.kind with
    | error error => exact contract.throw_upholds _
    | ok kind =>
      refine (contract.log_upholds _ _ _).bind fun _ ↦
        Calling.Meets.bind (.act (hsteady.note _)) fun _ ↦ ?_
      cases Task.init kind ⟨some invocation, environment⟩ with
      | error error => exact contract.throw_upholds _
      | ok task =>
        exact (contract.readyCourse_upholds _ task).bind fun output ↦
          contract.storeCourse_upholds _ output

end

/-! ### Elements and files -/

section

variable {site : Site} {tree : Tree} {slot : Slot} {element : Element}

theorem passCourse_upholds :
    contract.Upholds context (.pass site tree slot element) opened
      (passCourse context site tree slot element) := by
  have hsteady := contract.steady context site.looped opened
  have hsnapshot : Ensures (contract.Kept site.looped opened)
      (Acting.because ExecutionError.resolve
        (Acting.resolving context (snapshot tree slot element)))
      (fun found s ↦ element.SameShape found.1 ∧ contract.Kept site.looped opened s)
      (fun _ ↦ contract.Kept site.looped opened) := by
    apply Agree.because
    exact hsteady.resolving fun scope ↦ Engine.snapshot_gives scope (fun _ _ ↦ trivial) slot
      fun _ _ ↦ trivial
  refine Calling.Meets.bind (.act hsnapshot) fun found ↦ .of_fact fun hshape ↦ ?_
  obtain ⟨resolved, environment⟩ := found
  cases hisBlock : resolved.isBlock with
  | true =>
    simp only [hisBlock, if_true]
    refine contract.callAll_maintains fun child hmem ↦ contract.call_maintains (Makes.child ?_)
    rwa [← hshape.block]
  | false =>
    simp only [hisBlock, Bool.false_eq_true, if_false]
    exact contract.call_maintains Makes.task

/-- While an item is bound the contract is kept as it is inside of loops. -/
theorem loopCourse_upholds (items : List Json) :
    contract.Upholds context (.loop site tree slot element items) opened
      (loopCourse site tree slot element items) := by
  cases items with
  | nil => exact contract.pure_upholds ()
  | cons item rest =>
    have hbind : Ensures (contract.Kept site.looped opened)
        (modify (·.setFact Facts.loopItem item) : Acting ExecutionError PUnit)
        (fun _ ↦ contract.Kept true opened) (fun _ ↦ contract.Kept site.looped opened) :=
      Agree.modify fun s hs ↦ ⟨hs.1, contract.bound _ _ _ hs.2⟩
    have hpass : Calling.Maintains
        (contract.terms (Makes context (.loop site tree slot element (item :: rest)) opened))
        (contract.Kept true opened) (call (.pass site.looping tree slot element)) :=
      contract.call_maintains Makes.iteration
    have hunbind : Ensures (contract.Kept true opened)
        (modify (·.removeFact Facts.loopItem) : Acting ExecutionError PUnit)
        (fun _ ↦ contract.Kept site.looped opened) (fun _ ↦ contract.Kept site.looped opened) :=
      Agree.modify fun s hs ↦ ⟨hs.1, contract.unbound _ _ hs.2⟩
    refine Calling.Meets.bind (.act hbind) fun _ ↦ Calling.Meets.bind (.attempt hpass) fun result ↦
      Calling.Meets.bind (.act hunbind) fun _ ↦ ?_
    cases result with
    | ok value => exact contract.call_maintains Makes.rest
    | error error => exact contract.throw_upholds _

theorem elementCourse_upholds :
    contract.Upholds context (.element site tree slot) opened
      (elementCourse context site tree slot) := by
  have hsteady := contract.steady context site.looped opened
  unfold elementCourse
  cases hget : tree.get? slot with
  | none => exact contract.throw_upholds _
  | some element =>
    refine Calling.Meets.bind (.act (hsteady.holds _ fun _ _ ↦ trivial)) fun passed ↦ ?_
    cases passed with
    | false => exact contract.log_upholds _ _ _
    | true =>
      simp only [if_true]
      cases element.loop with
      | none => exact contract.call_maintains (Makes.once hget)
      | some spec =>
        have hkeeps : Keeps (contract.Kept site.looped opened) (·.Arises fun _ ↦ True)
            (loopItems context spec) := hsteady.loopItems fun _ _ ↦ trivial
        have hitems : contract.Upholds context (.element site tree slot) opened
            (act (loopItems context spec)) :=
          contract.act_upholds hkeeps (fun _ _ hs ↦ hs) fun _ _ hs ↦ hs.2
        refine hitems.bind fun items ↦ (contract.log_upholds _ _ _).bind fun _ ↦ ?_
        exact contract.call_maintains (Makes.loop hget)

/-- While the file is open its elements keep the contract one level further down. -/
theorem fileCourse_upholds {path : FilePath} :
    contract.Upholds context (.file site path) opened (fileCourse context site path) := by
  have hget : Ensures (contract.Kept site.looped opened) (get : Acting ExecutionError Session)
      (fun found s ↦ found.depth = opened ∧ contract.Kept site.looped opened s)
      (fun _ ↦ contract.Kept site.looped opened) :=
    fun s hs ↦ .inl ⟨s, s, rfl, rfl, hs.1, hs⟩
  refine Calling.Meets.bind (.act hget) fun found ↦ .of_fact fun hdepth ↦ ?_
  rw [hdepth]
  by_cases hfull : opened ≥ context.settings.includeLimit
  · rw [if_pos hfull]
    exact contract.throw_upholds _
  · rw [if_neg hfull]
    have hload : Ensures (contract.Kept site.looped opened)
        (Acting.because ExecutionError.parse (loadTree context (context.settings.locate path)))
        (fun tree s ↦ (∃ text, Document.ofText context.registry text = .ok tree) ∧
          contract.Kept site.looped opened s)
        (fun _ ↦ contract.Kept site.looped opened) := by
      apply Agree.because
      exact loadTree_keeps (fun s reading hs ↦ hs) (context.settings.locate path)
    have hopen : Ensures (contract.Kept site.looped opened)
        (modify (fun s ↦ { s with depth := s.depth + 1 }) : Acting ExecutionError PUnit)
        (fun _ ↦ contract.Kept site.looped (opened + 1))
        (fun _ ↦ contract.Kept site.looped opened) :=
      Agree.modify fun s hs ↦ ⟨congrArg (· + 1) hs.1, hs.2⟩
    have hclose : Ensures (contract.Kept site.looped (opened + 1))
        (modify (fun s ↦ { s with depth := s.depth - 1 }) : Acting ExecutionError PUnit)
        (fun _ ↦ contract.Kept site.looped opened)
        (fun _ ↦ contract.Kept site.looped opened) :=
      Agree.modify fun s hs ↦ ⟨congrArg (· - 1) hs.1, hs.2⟩
    refine (contract.log_upholds _ _ _).bind fun _ ↦ Calling.Meets.bind (.act hload) fun tree ↦
      .of_fact fun ⟨text, hparse⟩ ↦ ?_
    have hroots : (callAll (.element site tree) tree.roots).Maintains
        (contract.terms (Makes context (.file site path) opened))
        (contract.Kept site.looped (opened + 1)) :=
      contract.callAll_maintains fun root hmem ↦
        contract.call_maintains (Makes.root (by omega) hparse hmem)
    refine (contract.log_upholds _ _ _).bind fun _ ↦ Calling.Meets.bind (.act hopen) fun _ ↦
      Calling.Meets.bind (.attempt hroots) fun result ↦
      Calling.Meets.bind (.act hclose) fun _ ↦ ?_
    cases result with
    | ok value => exact contract.pure_upholds ()
    | error error => exact contract.throw_upholds _

end

/-- Every call keeps a contract if the calls that it makes do. -/
theorem call_upholds (caller : Call) :
    contract.Upholds context caller opened (caller.course context) := by
  cases caller with
  | file => exact contract.fileCourse_upholds
  | element => exact contract.elementCourse_upholds
  | loop => exact contract.loopCourse_upholds _
  | pass => exact contract.passCourse_upholds
  | task => exact contract.taskCourse_upholds

theorem call_meets (callee : Call) {s : Session}
    (h : contract.holds callee.site.looped s.facts) :
    (callee.course context s).Meets (contract.terms (Makes context callee s.depth))
      fun reply ↦ contract.Kept callee.site.looped s.depth reply.2 :=
  Calling.Meets.of_maintains (contract.call_upholds callee) ⟨rfl, h⟩

/-- A run keeps a contract if the calls that it starts with do. -/
theorem entry_upholds (entry : Entry) :
    (entry.course context).Maintains (contract.terms (entry.Makes context opened))
      (contract.Kept false opened) := by
  have hlog (level : Level) (message : String) : Ensures (contract.Kept false opened)
      (Acting.log [] level message : Acting ExecutionError Unit)
      (fun _ ↦ contract.Kept false opened) (fun _ ↦ contract.Kept false opened) :=
    (contract.steady context false opened).log [] level message
  cases entry with
  | text content =>
    rw [Entry.course]
    cases hparse : Document.ofText context.registry content with
    | error error => exact .throw fun _ hs ↦ hs
    | ok tree =>
      refine contract.callAll_maintains fun root hmem ↦ ?_
      have hmakes : (Entry.text content).Makes context opened (.element .top tree root) opened :=
        ⟨rfl, tree, root, hparse, hmem, rfl⟩
      exact contract.call_maintains hmakes
  | file path =>
    have hmakes : (Entry.file path).Makes context opened (.file .top path) opened := ⟨rfl, rfl⟩
    exact contract.call_maintains hmakes
  | playbook path =>
    have hmakes : (Entry.playbook path).Makes context opened (.file .top path) opened := ⟨rfl, rfl⟩
    have hfile : (attempt (call (.file .top path)) :
        Calling ExecutionError (Except ExecutionError Unit)).Maintains
        (contract.terms ((Entry.playbook path).Makes context opened))
        (contract.Kept false opened) := .attempt (contract.call_maintains hmakes)
    refine Calling.Meets.bind (.act (hlog _ _)) fun _ ↦ hfile.bind fun result ↦ ?_
    cases result with
    | ok value => exact .act (hlog _ _)
    | error error => exact Calling.Meets.bind (.act (hlog _ _)) fun _ ↦ .throw fun _ hs ↦ hs

theorem entry_meets (entry : Entry) {s : Session} (h : contract.holds false s.facts) :
    (entry.course context s).Meets (contract.terms (entry.Makes context s.depth))
      fun reply ↦ contract.Kept false s.depth reply.2 :=
  Calling.Meets.of_maintains (contract.entry_upholds entry) ⟨rfl, h⟩

end Contract

end Playbook
