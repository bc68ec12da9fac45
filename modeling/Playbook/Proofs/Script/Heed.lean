import Playbook.Proofs.Likeness.Basic
import Playbook.Proofs.Script.Engine

/-!
# Heeding a cancellation

Only asking tells a cancelled session from another. Every other step does the same in both, and no
step takes a cancellation back. So two runs that start in sessions which differ in nothing else go
the same way until both ask and get different answers.

The number of open files changes only where a file is opened or closed. Every other action is
balanced: it leaves the depth as it was.
-/

namespace Playbook

/-- The session as if it were not cancelled. -/
def Session.uncancelled (s : Session) : Session :=
  { s with cancelled := false }

namespace Session

variable {s t : Session}

@[simp] theorem uncancelled_cancel (s : Session) : s.cancel.uncancelled = s.uncancelled := rfl

theorem eq_of_uncancelled_eq (h : s.uncancelled = t.uncancelled)
    (hflag : s.cancelled = t.cancelled) : s = t := by
  obtain ⟨hfacts, hdepth, -, hfiles, hjournal⟩ := Session.mk.inj h
  cases s
  cases t
  rw [mk.injEq]
  exact ⟨hfacts, hdepth, hflag, hfiles, hjournal⟩

end Session

/-! ## Steps -/

/-- The same happens in a cancelled session as in another, and it stays cancelled. -/
structure Acting.Heedless {ε α : Type} (action : Acting ε α) : Prop where
  like : ∀ s t, s.uncancelled = t.uncancelled → (action.run s).1 = (action.run t).1 ∧
    (action.run s).2.uncancelled = (action.run t).2.uncancelled
  stays : ∀ s, s.cancelled = true → (action.run s).2.cancelled = true

namespace Acting.Heedless

variable {ε ε' α β : Type} {x : Acting ε α} {f : α → Acting ε β}

/-- It suffices that the cancellation can be set before as well as after. -/
theorem of_commutes (h : ∀ s cancelled, x.run { s with cancelled } =
    ((x.run s).1, { (x.run s).2 with cancelled })) : x.Heedless := by
  have hrun (s : Session) : x.run s =
      ((x.run s.uncancelled).1, { (x.run s.uncancelled).2 with cancelled := s.cancelled }) :=
    h s.uncancelled s.cancelled
  constructor
  · intro s t hlike
    rw [hrun s, hrun t, hlike]
    exact ⟨rfl, rfl⟩
  · intro s hflag
    rw [hrun s]
    exact hflag

protected theorem bind (h : x.Heedless) (hf : ∀ value, (f value).Heedless) :
    (x >>= f).Heedless := by
  constructor
  · intro s t hlike
    obtain ⟨hresult, hsession⟩ := h.like s t hlike
    rcases hs : x.run s with ⟨result, s'⟩
    rcases ht : x.run t with ⟨result', t'⟩
    rw [hs, ht] at hresult hsession
    obtain rfl : result = result' := hresult
    cases result with
    | error error =>
      rw [run_bind_of_error hs, run_bind_of_error ht]
      exact ⟨rfl, hsession⟩
    | ok value =>
      rw [run_bind_of_ok hs, run_bind_of_ok ht]
      exact (hf value).like s' t' hsession
  · intro s hflag
    have hstays := h.stays s hflag
    rcases hs : x.run s with ⟨result, s'⟩
    rw [hs] at hstays
    cases result with
    | error error =>
      rw [run_bind_of_error hs]
      exact hstays
    | ok value =>
      rw [run_bind_of_ok hs]
      exact (hf value).stays s' hstays

protected theorem because (wrap : ε → ε') (h : x.Heedless) : (because wrap x).Heedless := by
  constructor
  · intro s t hlike
    obtain ⟨hresult, hsession⟩ := h.like s t hlike
    rw [because_run, because_run, hresult]
    exact ⟨rfl, hsession⟩
  · intro s hflag
    rw [because_run]
    exact h.stays s hflag

end Acting.Heedless

/-- A heedless action that leaves the depth as it was. -/
structure Acting.Balanced {ε α : Type} (action : Acting ε α) : Prop extends
    Acting.Heedless action where
  depth_eq : ∀ s, (action.run s).2.depth = s.depth

namespace Acting.Balanced

variable {ε ε' α β : Type} {x : Acting ε α} {f : α → Acting ε β}

/-- It suffices that cancellation and depth can be set before as well as after. -/
theorem of_commutes (h : ∀ s cancelled depth, x.run { s with cancelled, depth } =
    ((x.run s).1, { (x.run s).2 with cancelled, depth })) : x.Balanced := by
  have hdepth (s : Session) : (x.run s).2.depth = s.depth := by
    have hrun : x.run s =
        ((x.run s).1, { (x.run s).2 with cancelled := s.cancelled, depth := s.depth }) :=
      h s s.cancelled s.depth
    rw [hrun]
  refine ⟨.of_commutes fun s cancelled ↦ ?_, hdepth⟩
  refine (h s cancelled s.depth).trans ?_
  rw [← hdepth s]

protected theorem pure (value : α) : Balanced (Pure.pure value : Acting ε α) :=
  of_commutes fun _ _ _ ↦ rfl

protected theorem throw (error : ε) : Balanced (throw error : Acting ε α) :=
  of_commutes fun _ _ _ ↦ rfl

protected theorem bind (h : x.Balanced) (hf : ∀ value, (f value).Balanced) :
    (x >>= f).Balanced where
  toHeedless := h.toHeedless.bind fun value ↦ (hf value).toHeedless
  depth_eq s := by
    have hdepth := h.depth_eq s
    rcases hs : x.run s with ⟨_ | value, s'⟩
    · rw [run_bind_of_error hs]
      rwa [hs] at hdepth
    · rw [run_bind_of_ok hs, (hf value).depth_eq s']
      rwa [hs] at hdepth

protected theorem because (wrap : ε → ε') (h : x.Balanced) : (because wrap x).Balanced where
  toHeedless := h.toHeedless.because wrap
  depth_eq s := by
    rw [because_run]
    exact h.depth_eq s

theorem log (spans : List String) (level : Level) (message : String) :
    Balanced (Acting.log spans level message : Acting ε Unit) :=
  of_commutes fun _ _ _ ↦ rfl

theorem note (event : TaskEvent) : Balanced (Acting.note event : Acting ε Unit) :=
  of_commutes fun _ _ _ ↦ rfl

theorem depth : Balanced (do return (← get).depth : Acting ε Nat) where
  toHeedless := .of_commutes fun _ _ ↦ rfl
  depth_eq _ := rfl

/-- A change of the session other than its cancellation and its depth. -/
theorem change {change : Session → Session} (h : ∀ s cancelled depth,
    change { s with cancelled, depth } = { change s with cancelled, depth }) :
    Balanced (modify change : Acting ε PUnit) := by
  apply of_commutes
  intro s cancelled depth
  exact congrArg (Prod.mk (Except.ok PUnit.unit)) (h s cancelled depth)

theorem cancel : Balanced (modify (·.cancel) : Acting ε PUnit) where
  like _ _ hlike := ⟨rfl, hlike⟩
  stays _ _ := rfl
  depth_eq _ := rfl

theorem resolving (context : Context) (resolve : Scope → Resolving α) :
    (Acting.resolving context resolve).Balanced := by
  apply of_commutes
  intro s cancelled depth
  rw [resolving_run, resolving_run]
  rfl

theorem readFor (purpose : Purpose) (path : FilePath) : (Acting.readFor purpose path).Balanced := by
  apply of_commutes
  intro s cancelled depth
  rw [readFor_run, readFor_run]
  rfl

theorem changeFiles (change : FileSystem → Except FileError FileSystem) :
    (Acting.changeFiles change).Balanced := by
  apply of_commutes
  intro s cancelled depth
  have hget (s : Session) : (get : Acting FileError Session).run s = (.ok s, s) := rfl
  rw [Acting.changeFiles, run_bind_of_ok (hget s), run_bind_of_ok (hget _)]
  dsimp only
  cases change s.files <;> rfl

theorem execute (context : Context) (command shell : String) (directory : Option FilePath)
    (environment : Environment) :
    (Task.execute context command shell directory environment).Balanced := by
  apply of_commutes
  intro s cancelled depth
  have hget (s : Session) : (get : Acting TaskError Session).run s = (.ok s, s) := rfl
  rw [Task.execute, run_bind_of_ok (hget s), run_bind_of_ok (hget _)]
  dsimp only
  cases Shell.start s.files shell command directory
      (context.environment.insertMany environment.entries) with
  | error fault => rfl
  | ok outcome =>
    dsimp only
    cases Task.outputOf outcome <;> rfl

end Acting.Balanced

/-! ## Scripts -/

/-- No step but asking goes by whether the session is cancelled, and none takes that back. -/
def Script.Heedless {α : Type} : Script α → Prop
  | .done _ => True
  | .step mark change next =>
    (∀ s t, s.uncancelled = t.uncancelled → (change s).uncancelled = (change t).uncancelled) ∧
      (∀ s, s.cancelled = true → (change s).cancelled = true) ∧
      (mark ≠ .asks → ∀ s t, s.uncancelled = t.uncancelled → next s = next t) ∧
      ∀ s, (next s).Heedless

/-- Moments of two runs that are the same, apart from whether the run was cancelled, up to the end
or until both ask and get different answers. In the first case `same` holds of the ends. -/
inductive SameUntilAsked (same : Prop) : List Moment → List Moment → Prop where
  | ends (h : same) : SameUntilAsked same [] []
  | step {mark : Mark} {s s' t t' : Session} {rest rest' : List Moment}
      (before : s.uncancelled = t.uncancelled) (after : s'.uncancelled = t'.uncancelled)
      (later : SameUntilAsked same rest rest') :
      SameUntilAsked same (⟨mark, s, s'⟩ :: rest) (⟨mark, t, t'⟩ :: rest')
  | asked {s t : Session} {s' t' : Session} {rest rest' : List Moment}
      (before : s.uncancelled = t.uncancelled) (answers : s.cancelled ≠ t.cancelled) :
      SameUntilAsked same (⟨.asks, s, s'⟩ :: rest) (⟨.asks, t, t'⟩ :: rest')

theorem SameUntilAsked.of_unasked {same : Prop} {moments moments' : List Moment}
    (h : SameUntilAsked same moments moments') (hasks : ∀ moment ∈ moments, moment.mark ≠ .asks) :
    same := by
  induction h with
  | ends h => exact h
  | step _ _ _ ih =>
    apply ih
    intro moment hmem
    exact hasks moment (List.mem_cons_of_mem _ hmem)
  | asked => exact absurd rfl (hasks _ List.mem_cons_self)

namespace Script

variable {α β : Type}

theorem Heedless.bind {script : Script α} {f : α → Script β} (h : script.Heedless)
    (hf : ∀ value, (f value).Heedless) : (script.bind f).Heedless := by
  induction script with
  | done value => exact hf value
  | step mark change next ih =>
    obtain ⟨hlike, hstays, hnext, hlater⟩ := h
    have hsame : mark ≠ .asks → ∀ s t, s.uncancelled = t.uncancelled →
        (next s).bind f = (next t).bind f := by
      intro hmark s t hst
      rw [hnext hmark s t hst]
    exact ⟨hlike, hstays, hsame, fun s ↦ ih s (hlater s)⟩

/-- A run that was cancelled before stays so to its end. -/
theorem Runs.cancelled {script : Script α} (hscript : script.Heedless) {s s' : Session}
    {moments : List Moment} {value : α} (h : script.Runs s moments value s')
    (hs : s.cancelled = true) :
    (∀ moment ∈ moments, moment.before.cancelled = true ∧ moment.after.cancelled = true) ∧
      s'.cancelled = true := by
  induction h with
  | done value s => exact ⟨nofun, hs⟩
  | @step mark change next s found s' moments value arrived later ih =>
    obtain ⟨-, hstays, -, hlater⟩ := hscript
    have hfound : found.cancelled = true := by
      rcases arrived with rfl | rfl
      · exact hs
      · rfl
    obtain ⟨hmoments, hend⟩ := ih (hlater found) (hstays found hfound)
    constructor
    · intro moment hmem
      rcases List.mem_cons.mp hmem with rfl | hrest
      · exact ⟨hfound, hstays found hfound⟩
      · exact hmoments moment hrest
    · exact hend

/-- Runs of one script that start alike go the same way until they get different answers. -/
theorem Runs.same_until_asked {script : Script α} (hscript : script.Heedless) {s s' t t' : Session}
    {moments moments' : List Moment} {value value' : α} (h : script.Runs s moments value s')
    (h' : script.Runs t moments' value' t') (hlike : s.uncancelled = t.uncancelled) :
    SameUntilAsked (value = value' ∧ s'.uncancelled = t'.uncancelled) moments moments' := by
  induction h generalizing t moments' with
  | done value s =>
    cases h'
    exact .ends ⟨rfl, hlike⟩
  | @step mark change next s found s' moments value arrived later ih =>
    cases h' with
    | @step _ _ _ _ found' _ _ _ arrived' later' =>
      obtain ⟨hchange, hstays, hnext, hlater⟩ := hscript
      have hfound : found.uncancelled = found'.uncancelled := by
        rcases arrived with rfl | rfl <;> rcases arrived' with rfl | rfl <;> exact hlike
      by_cases hsame : next found = next found'
      · rw [← hsame] at later'
        exact .step hfound (hchange _ _ hfound)
          (ih (hlater found) later' (hchange _ _ hfound))
      · -- The scripts go different ways, so this step asks, and the answers differ.
        by_cases hmark : mark = .asks
        · subst hmark
          apply SameUntilAsked.asked hfound
          intro hflag
          exact hsame (congrArg next (Session.eq_of_uncancelled_eq hfound hflag))
        · exact absurd (hnext hmark found found' hfound) hsame

end Script

/-! ## Computations in steps -/

namespace Scripting

variable {ε ε' α β : Type} {x : Scripting ε α} {f : α → Scripting ε β}

theorem heedless_pure (value : α) : Script.Heedless (pure value : Scripting ε α) := trivial

theorem heedless_throw (error : ε) : Script.Heedless (throw error : Scripting ε α) := trivial

theorem heedless_step (mark : Mark) {action : Acting ε α} (h : action.Heedless) :
    Script.Heedless (step mark action) :=
  ⟨fun s t hst ↦ (h.like s t hst).2, h.stays,
    fun _ s t hst ↦ congrArg Script.done (h.like s t hst).1, fun _ ↦ trivial⟩

theorem heedless_asked : Script.Heedless (asked : Scripting ε Bool) :=
  ⟨fun _ _ hst ↦ hst, fun _ hs ↦ hs, fun hmark ↦ absurd rfl hmark, fun _ ↦ trivial⟩

theorem heedless_bind (h : Script.Heedless x) (hf : ∀ value, Script.Heedless (f value)) :
    Script.Heedless (x >>= f : Scripting ε β) := by
  apply Script.Heedless.bind h
  intro result
  cases result with
  | ok value => exact hf value
  | error error => exact heedless_throw error

theorem heedless_attempt (h : Script.Heedless x) :
    Script.Heedless (attempt x : Scripting ε' (Except ε α)) :=
  Script.Heedless.bind h fun _ ↦ trivial

theorem heedless_because (wrap : ε → ε') (h : Script.Heedless x) :
    Script.Heedless (because wrap x) :=
  Script.Heedless.bind h fun _ ↦ trivial

end Scripting

end Playbook
