import Playbook.Proofs.Interpreter

/-!
# Resolving is asking

A resolution collects what it asked, with the facts as they were when it began, and a session takes
that over when the resolution ends. Asking writes every question into the session at once. As long
as no slot decides anything, the two give the same answers and the same calls, errors included.
-/

namespace Playbook

/-! ## One step after another -/

section

variable {σ ε α β : Type} {x : ExceptT ε (StateM σ) α} {f : α → ExceptT ε (StateM σ) β} {s s' : σ}

theorem run_bind_of_ok {a : α} (h : x.run s = (.ok a, s')) : (x >>= f).run s = (f a).run s' := by
  change StateT.bind x.run (ExceptT.bindCont f) s = _
  simp only [StateT.bind, bind, h]
  rfl

theorem run_bind_of_error {e : ε} (h : x.run s = (.error e, s')) :
    (x >>= f).run s = (.error e, s') := by
  change StateT.bind x.run (ExceptT.bindCont f) s = _
  simp only [StateT.bind, bind, h]
  rfl

end

theorem because_run {ε ε' α : Type} (wrap : ε → ε') (x : Acting ε α) (s : Session) :
    (Acting.because wrap x).run s = ((x.run s).1.mapError wrap, (x.run s).2) := by
  change Acting.because wrap x s = _
  rw [Acting.because]
  rcases x.run s with ⟨_ | _, _⟩ <;> rfl

theorem attempt_run {ε ε' α : Type} (x : Acting ε α) (s : Session) :
    (Acting.attempt x : Acting ε' (Except ε α)).run s = (.ok (x.run s).1, (x.run s).2) :=
  rfl

/-- The session with other calls in its journal. -/
def Session.withCalls (s : Session) (calls : List String) : Session :=
  { s with journal := { s.journal with calls } }

/-- Whether a slot is new shows in the answer and decides whether it is remembered. -/
theorem Resolving.enterSlot_run (slot : Slot) (r : Resolution) :
    (Resolving.enterSlot slot).run r =
      if slot ∈ r.slots then (.ok false, r) else (.ok true, { r with slots := slot :: r.slots }) := by
  have hstart : (Resolving.enterSlot slot).run r =
      (if slot ∈ r.slots then (return false : Resolving Bool) else do
        set { r with slots := slot :: r.slots }
        return true).run r := rfl
  rw [hstart]
  split <;> rfl

/-- Resolving in a session starts with nothing met, and the session takes over what was asked. -/
theorem resolving_run {α : Type} (context : Context) (resolve : Scope → Resolving α)
    (s : Session) : (Acting.resolving context resolve).run s =
      (((resolve ⟨context.resolver, s.facts⟩).run (.start s.journal.calls)).1, s.withCalls
        ((resolve ⟨context.resolver, s.facts⟩).run (.start s.journal.calls)).2.calls) := by
  have hget : (get : Acting ResolveError Session).run s = (.ok s, s) := rfl
  rcases hresolve : (resolve ⟨context.resolver, s.facts⟩).run.run (.start s.journal.calls) with
    ⟨result, r⟩
  have hpair : (resolve ⟨context.resolver, s.facts⟩).run (.start s.journal.calls) = (result, r) :=
    hresolve
  rw [Acting.resolving, run_bind_of_ok hget, hpair]
  dsimp only
  rw [hresolve]
  cases result <;> rfl

/-- Resolving, after the slots `before`, gives what an action gives that asks, and both ask for the
same. Without an error it ends with the slots `after`. -/
def Asks (context : Context) (before after : List Slot) {α : Type} (resolve : Scope → Resolving α)
    (action : Acting ResolveError α) : Prop :=
  ∀ (s : Session) (r : Resolution), r.slots = before → r.calls = s.journal.calls →
    ∃ result r', (resolve ⟨context.resolver, s.facts⟩).run r = (result, r') ∧
      action.run s = (result, s.withCalls r'.calls) ∧
      ∀ value, result = .ok value → r'.slots = after

namespace Asks

variable {context : Context} {before between after : List Slot} {α β : Type}

theorem pure (value : α) :
    Asks context before before (fun _ ↦ Pure.pure value) (Pure.pure value) := by
  intro s r hslots hcalls
  refine ⟨.ok value, r, rfl, ?_, fun _ _ ↦ hslots⟩
  rw [hcalls]
  rfl

theorem bind {resolve : Scope → Resolving α} {action : Acting ResolveError α}
    {resolveNext : Scope → α → Resolving β} {next : α → Acting ResolveError β}
    (hfirst : Asks context before between resolve action)
    (hnext : ∀ value, Asks context between after (resolveNext · value) (next value)) :
    Asks context before after (fun scope ↦ resolve scope >>= resolveNext scope)
      (action >>= next) := by
  intro s r hslots hcalls
  obtain ⟨result, r', hresolve, haction, hbetween⟩ := hfirst s r hslots hcalls
  cases result with
  | error error =>
    exact ⟨.error error, r', run_bind_of_error hresolve, run_bind_of_error haction, nofun⟩
  | ok value =>
    obtain ⟨final, r'', hresolve', haction', hafter⟩ :=
      hnext value (s.withCalls r'.calls) r' (hbetween value rfl) rfl
    refine ⟨final, r'', ?_, ?_, hafter⟩
    · rw [run_bind_of_ok hresolve]
      exact hresolve'
    · rw [run_bind_of_ok haction]
      exact haction'

/-- The rest may use that the first part gives values of a certain form. -/
theorem bind_map {γ : Type} {resolve : Scope → Resolving α} {action : Acting ResolveError γ}
    {form : γ → α} {resolveNext : Scope → α → Resolving β} {next : γ → Acting ResolveError β}
    (hfirst : Asks context before between resolve (do return form (← action)))
    (hnext : ∀ value, Asks context between after (resolveNext · (form value)) (next value)) :
    Asks context before after (fun scope ↦ resolve scope >>= resolveNext scope)
      (action >>= next) := by
  intro s r hslots hcalls
  obtain ⟨result, r', hresolve, haction, hbetween⟩ := hfirst s r hslots hcalls
  rcases hrun : action.run s with ⟨found, s'⟩
  cases found with
  | error error =>
    obtain ⟨rfl, rfl⟩ := Prod.mk.inj ((run_bind_of_error hrun).symm.trans haction)
    exact ⟨.error error, r', run_bind_of_error hresolve, run_bind_of_error hrun, nofun⟩
  | ok value =>
    obtain ⟨rfl, rfl⟩ := Prod.mk.inj ((run_bind_of_ok hrun).symm.trans haction)
    obtain ⟨final, r'', hresolve', haction', hafter⟩ :=
      hnext value (s.withCalls r'.calls) r' (hbetween _ rfl) rfl
    refine ⟨final, r'', ?_, ?_, hafter⟩
    · rw [run_bind_of_ok hresolve]
      exact hresolve'
    · rw [run_bind_of_ok hrun]
      exact haction'

/-- A first part that asks nothing leaves the rest as it is. -/
theorem bind_of_pure {resolve : Scope → Resolving α} {value : α}
    {resolveNext : Scope → α → Resolving β} {action : Acting ResolveError β}
    (hfirst : Asks context before between resolve (Pure.pure value))
    (hnext : Asks context between after (resolveNext · value) action) :
    Asks context before after (fun scope ↦ resolve scope >>= resolveNext scope) action := by
  intro s r hslots hcalls
  obtain ⟨result, r', hresolve, hpure, hbetween⟩ := hfirst s r hslots hcalls
  obtain ⟨hresult, hsession⟩ := Prod.mk.inj hpure
  subst hresult
  have hcalls' : r'.calls = s.journal.calls :=
    congrArg (·.journal.calls) (hsession.symm : s.withCalls r'.calls = s)
  obtain ⟨final, r'', hresolve', haction, hafter⟩ := hnext s r' (hbetween value rfl) hcalls'
  refine ⟨final, r'', ?_, haction, hafter⟩
  rw [run_bind_of_ok hresolve]
  exact hresolve'

/-- What is resolved from the start in a session is asked for in it. -/
theorem resolving_eq {resolve : Scope → Resolving α} {action : Acting ResolveError α}
    (h : Asks context [] after resolve action) : Acting.resolving context resolve = action := by
  funext s
  obtain ⟨result, r', hresolve, haction, -⟩ := h s (.start s.journal.calls) rfl rfl
  have hrun : (Acting.resolving context resolve).run s = (result, s.withCalls r'.calls) := by
    rw [resolving_run, hresolve]
  exact hrun.trans haction.symm

/-! ## Values -/

theorem text (template : String) :
    Asks context before before (Resolving.text · template) (Acting.ask context template) := by
  intro s r hslots hcalls
  refine ⟨context.resolver template s.facts, Resolving.call template r, ?_, ?_, ?_⟩
  · have hmodify : (modify (Resolving.call template) : Resolving PUnit).run r =
        (.ok ⟨⟩, Resolving.call template r) := rfl
    change (Resolving.text ⟨context.resolver, s.facts⟩ template).run r = _
    rw [Resolving.text, run_bind_of_ok hmodify]
    dsimp only
    cases context.resolver template s.facts <;> rfl
  · have hget : (get : Acting ResolveError Session).run s = (.ok s, s) := rfl
    rw [Acting.ask, run_bind_of_ok hget, Resolving.call, hcalls]
    cases context.resolver template s.facts <;> rfl
  · exact fun _ _ ↦ hslots

theorem optional {resolve : Scope → α → Resolving α} {ask : α → Acting ResolveError α}
    (h : ∀ value, Asks context before before (resolve · value) (ask value)) (given : Option α) :
    Asks context before before (fun scope ↦ Resolving.optional (resolve scope) given)
      (given.mapM ask) := by
  cases given with
  | none => exact pure none
  | some value =>
    rw [Option.mapM_some, ← bind_pure_comp]
    exact (h value).bind fun resolved ↦ pure (some resolved)

theorem list {resolve : Scope → α → Resolving α} {ask : α → Acting ResolveError α}
    (h : ∀ value, Asks context before before (resolve · value) (ask value)) (values : List α) :
    Asks context before before (fun scope ↦ Resolving.list (resolve scope) values)
      (values.mapM ask) := by
  induction values with
  | nil =>
    rw [List.mapM_nil]
    exact pure []
  | cons value rest ih =>
    rw [List.mapM_cons]
    exact (h value).bind fun first ↦ ih.bind fun others ↦ pure (first :: others)

theorem environment (given : Environment) :
    Asks context before before
      (fun scope ↦ Resolving.entries (Resolving.text scope) given.entries) (given.ask context) := by
  rw [Environment.ask]
  induction given.entries with
  | nil =>
    rw [List.mapM_nil]
    exact pure []
  | cons entry rest ih =>
    obtain ⟨name, value⟩ := entry
    rw [List.mapM_cons, bind_assoc]
    simp only [pure_bind]
    exact (text value).bind fun first ↦ ih.bind fun others ↦ pure ((name, first) :: others)

mutual

theorem json : (value : Json) →
    Asks context before before (value.resolve ·) (value.ask context)
  | .str template => (text template).bind fun resolved ↦ pure (Json.str resolved)
  | .arr items => (jsonItems items).bind fun resolved ↦ pure (Json.arr resolved)
  | .obj fields => (jsonFields fields).bind fun resolved ↦ pure (Json.obj resolved)
  | .null | .bool _ | .int _ | .float _ => pure _

theorem jsonItems : (items : List Json) →
    Asks context before before (Json.resolveItems · items) (Json.askItems context items)
  | [] => pure []
  | item :: rest =>
    (json item).bind fun first ↦ (jsonItems rest).bind fun others ↦ pure (first :: others)

theorem jsonFields : (fields : List (String × Json)) →
    Asks context before before (Json.resolveFields · fields) (Json.askFields context fields)
  | [] => pure []
  | (key, value) :: rest =>
    (json value).bind fun first ↦ (jsonFields rest).bind fun others ↦
      pure ((key, first) :: others)

end

theorem loop (given : LoopSpec) :
    Asks context before before (given.resolve ·) (given.ask context) := by
  cases given with
  | var template => exact (text template).bind fun resolved ↦ pure (LoopSpec.var resolved)
  | items values => exact (jsonItems values).bind fun resolved ↦ pure (LoopSpec.items resolved)

theorem task (given : Invocation) :
    Asks context before before (given.resolve ·) (given.ask context) :=
  (jsonFields given.config).bind fun config ↦ pure { given with config }

/-- An element is resolved by asking for the strings of its heading. -/
theorem element (heading : Heading) (block : List Slot) (parent : Option Slot) :
    Asks context before before ((heading.element block parent).resolve ·) (do
      let resolved ← heading.ask context
      return resolved.element block parent) := by
  have hask : (do
      let resolved ← heading.ask context
      return resolved.element block parent) = (do
      let name ← heading.name.mapM (Acting.ask context)
      let guards ← heading.guards.mapM (Acting.ask context)
      let register ← heading.register.mapM (Acting.ask context)
      let environment ← (do return .ofList (← heading.environment.ask context))
      let loop ← heading.loop.mapM (LoopSpec.ask context)
      let task ← heading.task.mapM (Invocation.ask context)
      return { heading.element block parent with
        name, guards, register, environment, loop, task }) := by
    simp only [Heading.ask, bind_assoc, pure_bind]
    rfl
  rw [hask]
  refine (optional text heading.name).bind fun name ↦ ?_
  refine (list text heading.guards).bind fun guards ↦ ?_
  refine (optional text heading.register).bind fun register ↦ ?_
  refine ((environment heading.environment).bind fun own ↦ pure _).bind fun environment ↦ ?_
  refine (optional loop heading.loop).bind fun loop ↦ ?_
  exact (optional task heading.task).bind fun task ↦ pure _

end Asks

end Playbook
