import Playbook.Proofs.Course.Contract

/-!
# Runs without a limit

A course is followed to its end: every call in it is followed to the end of its own course, and then
the course goes on. There is no limit on how far down this may go, so nothing is followed when calls
go on and on. Between calls the files may be changed from outside. The trace of a run tells which
calls were made and which names were written, in order.
-/

namespace Playbook

/-- A step of a run. -/
inductive Step where
  | call (callee : Call)
  | write (looped : Bool) (told : Write)

/-- What becomes of the files before a call, after the steps that led to it. -/
abbrev World := List Step → FileSystem → FileSystem

/-- The world in which nothing but the run itself changes files. -/
def World.quiet : World := fun _ files ↦ files

/-- After the steps of the history, the course makes the steps of the trace and ends with the
reply. -/
inductive Follows (context : Context) (world : World) :
    (history : List Step) → Course Reply → (trace : List Step) → Reply → Prop where
  | done {history reply} : Follows context world history (.done reply) [] reply
  | write {history looped told next trace reply}
      (later : Follows context world (history ++ [.write looped told]) next trace reply) :
      Follows context world history (.write looped told next) (.write looped told :: trace) reply
  | call {history callee s next inside answer trace reply}
      (called : Follows context world (history ++ [.call callee])
        (callee.course context { s with files := world history s.files }) inside answer)
      (later : Follows context world (history ++ .call callee :: inside) (next answer) trace
        reply) :
      Follows context world history (.call callee s next) (.call callee :: inside ++ trace) reply

namespace Follows

variable {context : Context} {world : World} {history trace trace' : List Step}
  {course : Course Reply} {reply reply' : Reply}

/-- A run goes one way only. -/
theorem unique (h : Follows context world history course trace reply)
    (h' : Follows context world history course trace' reply') :
    trace' = trace ∧ reply' = reply := by
  induction h generalizing trace' reply' with
  | done =>
    cases h'
    exact ⟨rfl, rfl⟩
  | write later ih =>
    cases h' with
    | write later' =>
      obtain ⟨rfl, rfl⟩ := ih later'
      exact ⟨rfl, rfl⟩
  | call called later ihCalled ihLater =>
    cases h' with
    | call called' later' =>
      obtain ⟨rfl, rfl⟩ := ihCalled called'
      obtain ⟨rfl, rfl⟩ := ihLater later'
      exact ⟨rfl, rfl⟩

/-- What a course meets on the terms of a contract holds at the end, if the contract allows what is
written. -/
theorem ends (contract : Contract) {makes : Call → Nat → Prop} {ends : Reply → Prop}
    (h : Follows context world history course trace reply)
    (hwrites : ∀ looped told, .write looped told ∈ trace → contract.allows looped told)
    (hmeets : course.Meets (contract.terms makes) ends) : ends reply := by
  induction h generalizing makes ends with
  | done => exact hmeets
  | write later ih =>
    have hallowed := hwrites _ _ List.mem_cons_self
    exact ih (fun looped told hmem ↦ hwrites looped told (List.mem_cons_of_mem _ hmem))
      (hmeets hallowed)
  | @call _ callee s _ _ answer _ _ called later ihCalled ihLater =>
    obtain ⟨⟨-, hholds⟩, hnext⟩ := hmeets
    have hkept : contract.Kept callee.site.looped s.depth answer.2 :=
      ihCalled (fun looped told hmem ↦ hwrites looped told
        (List.mem_append_left _ (List.mem_cons_of_mem _ hmem))) (contract.call_meets callee hholds)
    exact ihLater (fun looped told hmem ↦ hwrites looped told (List.mem_append_right _ hmem))
      (hnext answer hkept)

end Follows

/-! ## Following by computation -/

/-- The trace and the reply of a course, if all its calls have one. -/
def Course.follow (serve : Call → Session → Option (List Step × Reply)) :
    Course Reply → Option (List Step × Reply)
  | .done reply => some ([], reply)
  | .write looped told next =>
    (next.follow serve).map fun later ↦ (.write looped told :: later.1, later.2)
  | .call callee s next =>
    (serve callee s).bind fun called ↦ ((next called.2).follow serve).map fun later ↦
      (.call callee :: called.1 ++ later.1, later.2)

/-- The trace and the reply of a call, if calls are made at most so many levels deep. -/
def Call.follow (context : Context) : (levels : Nat) → Call → Session → Option (List Step × Reply)
  | 0, _, _ => none
  | levels + 1, callee, s => (callee.course context s).follow (follow context levels)

variable {context : Context} {trace : List Step} {course : Course Reply} {reply : Reply}

theorem Course.follows_of_follow {serve : Call → Session → Option (List Step × Reply)}
    (hserve : ∀ callee s inside answer, serve callee s = some (inside, answer) →
      ∀ history, Follows context .quiet history (callee.course context s) inside answer)
    (h : course.follow serve = some (trace, reply)) (history : List Step) :
    Follows context .quiet history course trace reply := by
  induction course generalizing trace history with
  | done value =>
    cases h
    exact .done
  | write looped told next ih =>
    obtain ⟨⟨later, found⟩, hlater, hpair⟩ := Option.map_eq_some_iff.mp h
    cases hpair
    exact .write (ih hlater _)
  | call callee s next ih =>
    obtain ⟨⟨inside, answer⟩, hcalled, hrest⟩ := Option.bind_eq_some_iff.mp h
    obtain ⟨⟨later, found⟩, hlater, hpair⟩ := Option.map_eq_some_iff.mp hrest
    cases hpair
    exact .call (hserve callee s inside answer hcalled _) (ih answer hlater _)

/-- What is computed is a run. -/
theorem Call.follows_of_follow {levels : Nat} {callee : Call} {s : Session}
    (h : callee.follow context levels s = some (trace, reply)) (history : List Step) :
    Follows context .quiet history (callee.course context s) trace reply := by
  induction levels generalizing callee s trace reply history with
  | zero => cases h
  | succ levels ih => exact Course.follows_of_follow (fun _ _ _ _ hcalled ↦ ih hcalled) h history

/-! ## A run without an end -/

/-- A block that holds itself; no parsed tree has one. -/
def selfBlock : Element :=
  { Element.bare none with block := [0] }

def selfTree : Tree := ⟨#[selfBlock], [0]⟩

/-- The course that is followed is not that of the block, nor that of a pass of it. -/
theorem Follows.ne_selfTree {world : World} {history : List Step}
    (h : Follows context world history course trace reply) (site : Site) (s : Session) :
    course ≠ (Call.element site selfTree 0).course context s ∧
      course ≠ (Call.pass site selfTree 0 selfBlock).course context s := by
  have helement (site : Site) (s : Session) : (Call.element site selfTree 0).course context s =
      .call (.pass (site.inside "block") selfTree 0 selfBlock) s .done := rfl
  have hpass (site : Site) (s : Session) : ∃ next,
      (Call.pass site selfTree 0 selfBlock).course context s =
        .call (.element site selfTree 0) s next := ⟨_, rfl⟩
  induction h generalizing site s with
  | done =>
    obtain ⟨next, hnext⟩ := hpass site s
    rw [helement, hnext]
    exact ⟨nofun, nofun⟩
  | write =>
    obtain ⟨next, hnext⟩ := hpass site s
    rw [helement, hnext]
    exact ⟨nofun, nofun⟩
  | call called later ihCalled ihLater =>
    obtain ⟨next, hnext⟩ := hpass site s
    rw [helement, hnext]
    constructor
    · intro heq
      cases heq
      exact (ihCalled _ _).2 rfl
    · intro heq
      cases heq
      exact (ihCalled _ _).1 rfl

/-- A block that holds itself is never followed to an end. -/
theorem not_follows_selfTree (world : World) (history : List Step) (site : Site) (s : Session) :
    ¬ Follows context world history ((Call.element site selfTree 0).course context s) trace reply :=
  fun h ↦ (h.ne_selfTree site s).1 rfl

end Playbook
