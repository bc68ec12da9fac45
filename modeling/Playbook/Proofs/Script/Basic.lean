import Playbook.Proofs.Asking

/-!
# Scripts

A script is a computation on a session taken apart into its steps. Each step tells what it is, so
that the moments of a run can be listed: when the run of a task begins and ends, when it asks
whether it was cancelled and when it starts a process. Between any two steps someone else may cancel
the run. Undisturbed, a script is a computation on a session again.
-/

namespace Playbook

/-- What a step is. Most are work of which nothing else is told. -/
inductive Mark where
  | work
  /-- The run of a task begins, with the names of the elements around it. -/
  | begins (spans : List String) (task : Task)
  /-- The run looks whether it was cancelled. -/
  | asks
  /-- A process is started. -/
  | spawns
  /-- The run of a task is over. -/
  | ends (result : Except TaskError (Option Json))

/-- A step that was taken, with the session that it found and the one that it left. -/
structure Moment where
  mark : Mark
  before : Session
  after : Session

/-- Steps one after another. How it goes on depends on the session that a step found. -/
inductive Script (α : Type) where
  | done (value : α)
  | step (mark : Mark) (change : Session → Session) (next : Session → Script α)

/-- The moments of a run, the value that it gave and the session that it left. -/
structure Story (α : Type) where
  moments : List Moment
  value : α
  session : Session

namespace Script

variable {α β : Type}

def bind : Script α → (α → Script β) → Script β
  | .done value, f => f value
  | .step mark change next, f => .step mark change fun s ↦ (next s).bind f

instance : Monad Script where
  pure := .done
  bind := Script.bind

/-- The moments of a run, in which the run may be cancelled from outside before any step, with the
value that it gives and the session that it leaves. -/
inductive Runs : Script α → Session → List Moment → α → Session → Prop where
  | done (value : α) (s : Session) : Runs (.done value) s [] value s
  | step {mark : Mark} {change : Session → Session} {next : Session → Script α}
      {s found s' : Session} {moments : List Moment} {value : α}
      (arrived : found = s ∨ found = s.cancel)
      (later : Runs (next found) (change found) moments value s') :
      Runs (.step mark change next) s (⟨mark, found, change found⟩ :: moments) value s'

/-- Runs a script; `outside` tells for one step after another whether the run is cancelled before
it. -/
def play (outside : List Bool) : Script α → Session → Story α
  | .done value, s => ⟨[], value, s⟩
  | .step mark change next, s =>
    let found := if outside.headD false then s.cancel else s
    let later := (next found).play outside.tail (change found)
    { later with moments := ⟨mark, found, change found⟩ :: later.moments }

theorem runs_play (script : Script α) (outside : List Bool) (s : Session) :
    script.Runs s (script.play outside s).moments (script.play outside s).value
      (script.play outside s).session := by
  induction script generalizing outside s with
  | done value => exact .done value s
  | step mark change next ih =>
    apply Runs.step
    · by_cases hcancel : outside.headD false
      · exact .inr (if_pos hcancel)
      · exact .inl (if_neg hcancel)
    · exact ih _ _ _

theorem runs_bind {script : Script α} {f : α → Script β} {s s' : Session} {moments : List Moment}
    {value : β} : (script.bind f).Runs s moments value s' ↔
      ∃ first given between later, moments = first ++ later ∧
        script.Runs s first given between ∧ (f given).Runs between later value s' := by
  constructor
  · intro h
    induction script generalizing s moments with
    | done given => exact ⟨[], given, s, moments, rfl, .done given s, h⟩
    | step mark change next ih =>
      cases h with
      | step arrived rest =>
        obtain ⟨first, given, between, later, rfl, hfirst, hlater⟩ := ih _ rest
        exact ⟨_, given, between, later, rfl, .step arrived hfirst, hlater⟩
  · rintro ⟨first, given, between, later, rfl, hfirst, hlater⟩
    induction hfirst with
    | done given s => exact hlater
    | step arrived rest ih => exact .step arrived (ih hlater)

/-- The value and the session of a run that nobody disturbs. -/
def alone : Script α → Session → α × Session
  | .done value, s => (value, s)
  | .step _ change next, s => (next s).alone (change s)

theorem play_nil (script : Script α) (s : Session) :
    ((script.play [] s).value, (script.play [] s).session) = script.alone s := by
  induction script generalizing s with
  | done value => rfl
  | step mark change next ih => exact ih s (change s)

theorem alone_bind (script : Script α) (f : α → Script β) (s : Session) :
    (script.bind f).alone s = (f (script.alone s).1).alone (script.alone s).2 := by
  induction script generalizing s with
  | done value => rfl
  | step mark change next ih => exact ih s (change s)

end Script

/-- A computation in steps that may fail. -/
abbrev Scripting (ε : Type) := ExceptT ε Script

namespace Scripting

variable {ε ε' α β : Type}

/-- A computation on a session as one step. -/
def step (mark : Mark) (action : Acting ε α) : Scripting ε α :=
  Script.step mark (fun s ↦ (action.run s).2) fun s ↦ .done (action.run s).1

def work (action : Acting ε α) : Scripting ε α :=
  step .work action

/-- Looks whether the run was cancelled. -/
def asked : Scripting ε Bool :=
  step .asks do return (← get).cancelled

/-- Gives the result of a computation instead of failing. -/
def attempt (x : Scripting ε α) : Scripting ε' (Except ε α) :=
  Script.bind x fun result ↦ .done (.ok result)

/-- Makes the errors of a computation causes of other errors. -/
def because (wrap : ε → ε') (x : Scripting ε α) : Scripting ε' α :=
  Script.bind x fun result ↦ .done (result.mapError wrap)

/-! ## Runs of computations in steps -/

section

variable {x : Scripting ε α} {f : α → Scripting ε β} {s s' : Session} {moments : List Moment}

theorem runs_pure {value : α} {result : Except ε α} :
    Script.Runs (pure value : Scripting ε α) s moments result s' ↔
      moments = [] ∧ result = .ok value ∧ s' = s := by
  constructor
  · rintro ⟨⟩
    exact ⟨rfl, rfl, rfl⟩
  · rintro ⟨rfl, rfl, rfl⟩
    exact .done _ _

theorem runs_throw {error : ε} {result : Except ε α} :
    Script.Runs (throw error : Scripting ε α) s moments result s' ↔
      moments = [] ∧ result = .error error ∧ s' = s := by
  constructor
  · rintro ⟨⟩
    exact ⟨rfl, rfl, rfl⟩
  · rintro ⟨rfl, rfl, rfl⟩
    exact .done _ _

theorem runs_step {mark : Mark} {action : Acting ε α} {result : Except ε α} :
    Script.Runs (step mark action) s moments result s' ↔
      ∃ found, (found = s ∨ found = s.cancel) ∧ moments = [⟨mark, found, (action.run found).2⟩] ∧
        result = (action.run found).1 ∧ s' = (action.run found).2 := by
  constructor
  · intro h
    cases h with
    | step arrived later =>
      cases later
      exact ⟨_, arrived, rfl, rfl, rfl⟩
  · rintro ⟨found, arrived, rfl, rfl, rfl⟩
    exact .step arrived (.done _ _)

theorem runs_bind {result : Except ε β} :
    Script.Runs (x >>= f : Scripting ε β) s moments result s' ↔
    (∃ error, result = .error error ∧ Script.Runs x s moments (.error error) s') ∨
      ∃ first value between later, moments = first ++ later ∧
        Script.Runs x s first (.ok value) between ∧
        Script.Runs (f value) between later result s' := by
  change (Script.bind x (ExceptT.bindCont f)).Runs s moments result s' ↔ _
  rw [Script.runs_bind]
  constructor
  · rintro ⟨first, given, between, later, rfl, hfirst, hlater⟩
    cases given with
    | error error =>
      cases hlater
      rw [List.append_nil]
      exact .inl ⟨error, rfl, hfirst⟩
    | ok value => exact .inr ⟨first, value, between, later, rfl, hfirst, hlater⟩
  · rintro (⟨error, rfl, hfirst⟩ | ⟨first, value, between, later, rfl, hfirst, hlater⟩)
    · exact ⟨moments, .error error, s', [], (List.append_nil _).symm, hfirst, .done _ _⟩
    · exact ⟨first, .ok value, between, later, rfl, hfirst, hlater⟩

/-- What follows a step goes on with what came of it. -/
theorem runs_step_bind {mark : Mark} {action : Acting ε α} {result : Except ε β} :
    Script.Runs (step mark action >>= f : Scripting ε β) s moments result s' ↔
      ∃ found later, (found = s ∨ found = s.cancel) ∧
        moments = ⟨mark, found, (action.run found).2⟩ :: later ∧
        Script.Runs (ExceptT.bindCont f (action.run found).1) (action.run found).2 later result
          s' := by
  constructor
  · intro h
    cases h with
    | step arrived later => exact ⟨_, _, arrived, rfl, later⟩
  · rintro ⟨found, later, arrived, rfl, hlater⟩
    exact .step arrived hlater

theorem runs_attempt {result : Except ε' (Except ε α)} :
    Script.Runs (attempt x : Scripting ε' (Except ε α)) s moments result s' ↔
      ∃ inner, result = .ok inner ∧ Script.Runs x s moments inner s' := by
  rw [attempt, Script.runs_bind]
  constructor
  · rintro ⟨first, inner, between, later, rfl, hfirst, hlater⟩
    cases hlater
    rw [List.append_nil]
    exact ⟨inner, rfl, hfirst⟩
  · rintro ⟨inner, rfl, hinner⟩
    exact ⟨moments, inner, s', [], (List.append_nil _).symm, hinner, .done _ _⟩

/-- An attempt does not fail, so what follows is always reached. -/
theorem runs_attempt_bind {next : Except ε α → Scripting ε' β} {result : Except ε' β} :
    Script.Runs (attempt x >>= next : Scripting ε' β) s moments result s' ↔
      ∃ first told between later, moments = first ++ later ∧
        Script.Runs x s first told between ∧
        Script.Runs (next told) between later result s' := by
  rw [runs_bind]
  constructor
  · rintro (⟨error, -, hfirst⟩ | ⟨first, told, between, later, rfl, hfirst, hlater⟩)
    · obtain ⟨_, herror, -⟩ := runs_attempt.mp hfirst
      cases herror
    · obtain ⟨_, htold, hinner⟩ := runs_attempt.mp hfirst
      obtain rfl := Except.ok.inj htold
      exact ⟨first, told, between, later, rfl, hinner, hlater⟩
  · rintro ⟨first, told, between, later, rfl, hfirst, hlater⟩
    exact .inr ⟨first, told, between, later, rfl, runs_attempt.mpr ⟨told, rfl, hfirst⟩, hlater⟩

theorem runs_because {wrap : ε → ε'} {result : Except ε' α} :
    Script.Runs (because wrap x) s moments result s' ↔
      ∃ inner, result = inner.mapError wrap ∧ Script.Runs x s moments inner s' := by
  rw [because, Script.runs_bind]
  constructor
  · rintro ⟨first, inner, between, later, rfl, hfirst, hlater⟩
    cases hlater
    rw [List.append_nil]
    exact ⟨inner, rfl, hfirst⟩
  · rintro ⟨inner, rfl, hinner⟩
    exact ⟨moments, inner, s', [], (List.append_nil _).symm, hinner, .done _ _⟩

end

/-! ## Undisturbed runs -/

/-- The computation on a session that a script is when nobody disturbs it. -/
def alone (x : Scripting ε α) : Acting ε α :=
  fun s ↦ Script.alone x s

@[simp] theorem alone_step (mark : Mark) (action : Acting ε α) :
    alone (step mark action) = action := rfl

@[simp] theorem alone_work (action : Acting ε α) : alone (work action) = action := rfl

@[simp] theorem alone_bind (x : Scripting ε α) (f : α → Scripting ε β) :
    alone (x >>= f) = alone x >>= fun value ↦ alone (f value) := by
  funext s
  have hscript := Script.alone_bind x (ExceptT.bindCont f) s
  have hrun : (alone x >>= fun value ↦ alone (f value)) s =
      ExceptT.bindCont (fun value ↦ alone (f value)) (alone x s).1 (alone x s).2 := rfl
  refine hscript.trans ?_
  rw [hrun, alone]
  rcases Script.alone x s with ⟨_ | _, _⟩ <;> rfl

@[simp] theorem alone_attempt (x : Scripting ε α) :
    alone (attempt x : Scripting ε' (Except ε α)) = Acting.attempt (alone x) := by
  funext s
  exact Script.alone_bind x _ s

@[simp] theorem alone_because (wrap : ε → ε') (x : Scripting ε α) :
    alone (because wrap x) = Acting.because wrap (alone x) := by
  funext s
  refine (Script.alone_bind x _ s).trans ?_
  rw [Acting.because, ExceptT.run, alone]
  rcases Script.alone x s with ⟨_ | _, _⟩ <;> rfl

end Scripting

end Playbook
