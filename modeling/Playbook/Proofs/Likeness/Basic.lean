import Playbook.Proofs.Refinement
import Playbook.Proofs.Watch

/-!
# Runs that go alike

Two runs may be of playbooks that differ in how deep their elements stand in blocks and files. The
results, the facts and the files must be the same then; the numbers of open files are fixed on both
sides, and of the journals only as much is compared as a likeness says. The rules follow the ways in
which the interpreter puts computations together, so what goes alike inside goes alike in every
playbook around it.

A likeness may let the first run stray: then nothing more is compared once that run has more files
open than it started with. It never closes them again, so at the end it is known whether it strayed.
-/

namespace Playbook

theorem ask_run (context : Context) (text : String) (s : Session) :
    (Acting.ask context text).run s =
      (context.resolver text s.facts, s.withCalls (text :: s.journal.calls)) := by
  have hget : (get : Acting ResolveError Session).run s = (.ok s, s) := rfl
  rw [Acting.ask, run_bind_of_ok hget]
  cases context.resolver text s.facts <;> rfl

theorem readFor_run (purpose : Purpose) (path : FilePath) (s : Session) :
    (Acting.readFor purpose path).run s =
      (s.files.readText path, s.withRead ⟨purpose, path, s.files.readText path⟩) := by
  have hget : (get : Acting FileError Session).run s = (.ok s, s) := rfl
  rw [Acting.readFor, run_bind_of_ok hget]
  dsimp only
  cases s.files.readText path <;> rfl

/-- What is compared of two journals. Entries of the log may come from inside different elements. -/
structure Likeness where
  journal : Journal → Journal → Prop
  strays : Prop
  logged : ∀ {j k : Journal} (level : Level) (message : String) (spans spans' : List String),
    journal j k → journal { j with log := ⟨level, message, spans⟩ :: j.log }
      { k with log := ⟨level, message, spans'⟩ :: k.log }
  noted : ∀ {j k : Journal} (event : TaskEvent), journal j k →
    journal { j with events := event :: j.events } { k with events := event :: k.events }
  asked : ∀ {j k : Journal} (text : String), journal j k →
    journal { j with calls := text :: j.calls } { k with calls := text :: k.calls }
  read : ∀ {j k : Journal} (reading : Reading), journal j k →
    journal { j with reads := reading :: j.reads } { k with reads := reading :: k.reads }

/-- Sessions that look the same to a task, with `here` and `there` files open. -/
structure Likeness.Like (c : Likeness) (here there : Nat) (s t : Session) : Prop where
  facts : s.facts = t.facts
  cancelled : s.cancelled = t.cancelled
  files : s.files = t.files
  depth_left : s.depth = here
  depth_right : t.depth = there
  journal : c.journal s.journal t.journal

/-- Two computations that have the same result and keep sessions alike, unless the first strays. It
closes no file that was open before. -/
structure Alike {ε α : Type} (c : Likeness) (here there : Nat) (x y : Acting ε α) : Prop where
  ends : ∀ s t, c.Like here there s t →
    (c.strays ∧ here < (x.run s).2.depth) ∨
      ((x.run s).1 = (y.run t).1 ∧ c.Like here there (x.run s).2 (y.run t).2)
  keeps : ∀ s, s.depth ≤ (x.run s).2.depth

/-- Where the first run cannot stray, both runs have the same result and leave sessions that look
the same. -/
theorem Alike.same {c : Likeness} (hstays : ¬ c.strays) {view : Session → Session}
    (hview : ∀ {s t}, c.Like s.depth s.depth s t ↔ view s = view t) {ε α : Type}
    {x y : Acting ε α} (h : ∀ opened, Alike c opened opened x y) (s : Session) :
    (x.run s).1 = (y.run s).1 ∧ view (x.run s).2 = view (y.run s).2 := by
  rcases (h s.depth).ends s s (hview.mpr rfl) with ⟨hstrays, -⟩ | ⟨hresult, hlike⟩
  · exact absurd hstrays hstays
  · refine ⟨hresult, hview.mp ?_⟩
    rw [hlike.depth_left]
    exact hlike

/-- What comes next does not lower the number of open files if it never does. -/
theorem depth_le_run_bind {ε α β : Type} {x : Acting ε α} {f : α → Acting ε β}
    (hnext : ∀ value s, s.depth ≤ ((f value).run s).2.depth) (s : Session) :
    (x.run s).2.depth ≤ ((x >>= f).run s).2.depth := by
  rcases hx : x.run s with ⟨_ | value, s'⟩
  · have hboth : (x >>= f).run s = (.error _, s') := run_bind_of_error hx
    exact Nat.le_of_eq (congrArg (fun ended ↦ ended.2.depth) hboth.symm)
  · rw [run_bind_of_ok hx]
    exact hnext value s'

namespace Alike

variable {ε ε' α β : Type} {c : Likeness} {here there : Nat} {x y : Acting ε α}
  {f g : α → Acting ε β}

protected theorem pure (value : α) : Alike (ε := ε) c here there (pure value) (pure value) :=
  ⟨fun _ _ h ↦ .inr ⟨rfl, h⟩, fun _ ↦ Nat.le_refl _⟩

protected theorem throw (error : ε) :
    Alike (α := α) c here there (throw error : Acting ε α) (throw error) :=
  ⟨fun _ _ h ↦ .inr ⟨rfl, h⟩, fun _ ↦ Nat.le_refl _⟩

protected theorem bind (h : Alike c here there x y)
    (hnext : ∀ value, Alike c here there (f value) (g value)) :
    Alike c here there (x >>= f) (y >>= g) := by
  have hkeeps := depth_le_run_bind (x := x) fun value s ↦ (hnext value).keeps s
  refine ⟨fun s t hst ↦ ?_, fun s ↦ Nat.le_trans (h.keeps s) (hkeeps s)⟩
  rcases h.ends s t hst with ⟨hstrays, hdepth⟩ | hends
  · exact .inl ⟨hstrays, Nat.lt_of_lt_of_le hdepth (hkeeps s)⟩
  · rcases hx : x.run s with ⟨result, s'⟩
    rcases hy : y.run t with ⟨other, t'⟩
    rw [hx, hy] at hends
    obtain ⟨hresult, hlike⟩ := hends
    obtain rfl : result = other := hresult
    cases result with
    | error error =>
      rw [run_bind_of_error hx, run_bind_of_error hy]
      exact .inr ⟨rfl, hlike⟩
    | ok value =>
      rw [run_bind_of_ok hx, run_bind_of_ok hy]
      exact (hnext value).ends s' t' hlike

protected theorem attempt (h : Alike c here there x y) :
    Alike (ε := ε') c here there (Acting.attempt x) (Acting.attempt y) := by
  refine ⟨fun s t hst ↦ ?_, fun s ↦ ?_⟩
  · rw [attempt_run, attempt_run]
    exact (h.ends s t hst).imp_right fun hends ↦ ⟨congrArg Except.ok hends.1, hends.2⟩
  · rw [attempt_run]
    exact h.keeps s

protected theorem because (h : Alike c here there x y) (wrap : ε → ε') :
    Alike c here there (Acting.because wrap x) (Acting.because wrap y) := by
  refine ⟨fun s t hst ↦ ?_, fun s ↦ ?_⟩
  · rw [because_run, because_run]
    exact (h.ends s t hst).imp_right fun hends ↦
      ⟨congrArg (Except.mapError wrap) hends.1, hends.2⟩
  · rw [because_run]
    exact h.keeps s

/-- A step without calls of other computations, in which what it looks at is the same. -/
theorem step {outcome outcome' : Session → Except ε α} {change change' : Session → Session}
    (hx : ∀ s, x.run s = (outcome s, change s)) (hy : ∀ t, y.run t = (outcome' t, change' t))
    (h : ∀ s t, c.Like here there s t →
      outcome s = outcome' t ∧ c.Like here there (change s) (change' t))
    (hkeeps : ∀ s, (change s).depth = s.depth) : Alike c here there x y := by
  refine ⟨fun s t hst ↦ ?_, fun s ↦ ?_⟩
  · rw [hx, hy]
    exact .inr (h s t hst)
  · rw [hx]
    exact Nat.le_of_eq (hkeeps s).symm

protected theorem modify {change change' : Session → Session}
    (h : ∀ s t, c.Like here there s t → c.Like here there (change s) (change' t))
    (hkeeps : ∀ s, (change s).depth = s.depth) :
    Alike (ε := ε) c here there (modify change) (modify change') := by
  have hrun (change : Session → Session) (s : Session) :
      (modify change : Acting ε PUnit).run s = (.ok ⟨⟩, change s) := rfl
  exact step (hrun change) (hrun change') (fun s t hst ↦ ⟨rfl, h s t hst⟩) hkeeps

/-! ## Single steps -/

theorem log (spans spans' : List String) (level : Level) (message : String) :
    Alike (ε := ε) c here there (Acting.log spans level message)
      (Acting.log spans' level message) :=
  Alike.modify (fun _ _ h ↦ ⟨h.facts, h.cancelled, h.files, h.depth_left, h.depth_right,
    c.logged level message spans spans' h.journal⟩) fun _ ↦ rfl

theorem note (event : TaskEvent) :
    Alike (ε := ε) c here there (Acting.note event) (Acting.note event) :=
  Alike.modify (fun _ _ h ↦ ⟨h.facts, h.cancelled, h.files, h.depth_left, h.depth_right,
    c.noted event h.journal⟩) fun _ ↦ rfl

theorem changeFacts (change : Facts → Facts) :
    Alike (ε := ε) c here there (modify fun s ↦ { s with facts := change s.facts })
      (modify fun s ↦ { s with facts := change s.facts }) :=
  Alike.modify (fun _ _ h ↦ ⟨congrArg change h.facts, h.cancelled, h.files, h.depth_left,
    h.depth_right, h.journal⟩) fun _ ↦ rfl

theorem cancel : Alike (ε := ε) c here there (modify (·.cancel)) (modify (·.cancel)) :=
  Alike.modify (fun _ _ h ↦ ⟨h.facts, rfl, h.files, h.depth_left, h.depth_right, h.journal⟩)
    fun _ ↦ rfl

/-- What comes after a look at the session may use that both sides look the same. -/
theorem look {f g : Session → Acting ε α} (h : ∀ s t : Session, s.facts = t.facts →
      s.cancelled = t.cancelled → s.files = t.files → Alike c here there (f s) (g t)) :
    Alike c here there (get >>= f) (get >>= g) := by
  have hget (s : Session) : (get : Acting ε Session).run s = (.ok s, s) := rfl
  refine ⟨fun s t hst ↦ ?_, fun s ↦ ?_⟩
  · rw [run_bind_of_ok (hget s), run_bind_of_ok (hget t)]
    exact (h s t hst.facts hst.cancelled hst.files).ends s t hst
  · rw [run_bind_of_ok (hget s)]
    exact (h s s rfl rfl rfl).keeps s

/-- The number of open files is known when it is looked at. -/
theorem lookDepth_left {f : Nat → Acting ε α} (h : Alike c here there (f here) y)
    (hkeeps : ∀ opened s, s.depth ≤ ((f opened).run s).2.depth) :
    Alike c here there (get >>= fun s ↦ f s.depth) y := by
  have hget (s : Session) : (get : Acting ε Session).run s = (.ok s, s) := rfl
  refine ⟨fun s t hst ↦ ?_, fun s ↦ ?_⟩
  · rw [run_bind_of_ok (hget s), hst.depth_left]
    exact h.ends s t hst
  · rw [run_bind_of_ok (hget s)]
    exact hkeeps s.depth s

theorem lookDepth {f g : Nat → Acting ε α} (h : Alike c here there (f here) (g there))
    (hkeeps : ∀ opened s, s.depth ≤ ((f opened).run s).2.depth) :
    Alike c here there (get >>= fun s ↦ f s.depth) (get >>= fun s ↦ g s.depth) := by
  have hget (t : Session) : (get : Acting ε Session).run t = (.ok t, t) := rfl
  refine lookDepth_left ⟨fun s t hst ↦ ?_, h.keeps⟩ hkeeps
  rw [run_bind_of_ok (hget t), hst.depth_right]
  exact h.ends s t hst

theorem readFor (purpose : Purpose) (path : FilePath) :
    Alike c here there (Acting.readFor purpose path) (Acting.readFor purpose path) := by
  refine step (readFor_run purpose path) (readFor_run purpose path) (fun s t h ↦ ?_) fun _ ↦ rfl
  rw [h.files]
  exact ⟨rfl, h.facts, h.cancelled, h.files, h.depth_left, h.depth_right, c.read _ h.journal⟩

theorem changeFiles (change : FileSystem → Except FileError FileSystem) :
    Alike c here there (Acting.changeFiles change) (Acting.changeFiles change) := by
  have hrun (s : Session) : (Acting.changeFiles change).run s = ((change s.files).map fun _ ↦ ⟨⟩,
      { s with files := (change s.files).toOption.getD s.files }) := by
    have hget : (get : Acting FileError Session).run s = (.ok s, s) := rfl
    rw [Acting.changeFiles, run_bind_of_ok hget]
    cases change s.files <;> rfl
  refine step hrun hrun (fun s t h ↦ ?_) fun _ ↦ rfl
  rw [h.files]
  exact ⟨rfl, h.facts, h.cancelled, rfl, h.depth_left, h.depth_right, h.journal⟩

variable {context : Context}

theorem ask (text : String) :
    Alike c here there (Acting.ask context text) (Acting.ask context text) := by
  refine step (ask_run context text) (ask_run context text) (fun s t h ↦ ?_) fun _ ↦ rfl
  rw [h.facts]
  exact ⟨rfl, h.facts, h.cancelled, h.files, h.depth_left, h.depth_right,
    c.asked text h.journal⟩

theorem resolvingText (text : String) :
    Alike c here there (Acting.resolving context (Resolving.text · text))
      (Acting.resolving context (Resolving.text · text)) := by
  have hask : Acting.resolving context (Resolving.text · text) = Acting.ask context text :=
    (Asks.text text).resolving_eq
  rw [hask]
  exact ask text

/-! ## Values -/

theorem optional {ask ask' : α → Acting ε α}
    (h : ∀ value, Alike c here there (ask value) (ask' value)) (given : Option α) :
    Alike c here there (given.mapM ask) (given.mapM ask') := by
  cases given with
  | none => exact Alike.pure none
  | some value =>
    rw [Option.mapM_some, Option.mapM_some, ← bind_pure_comp, ← bind_pure_comp]
    exact (h value).bind fun _ ↦ Alike.pure _

theorem list {ask ask' : α → Acting ε β} (h : ∀ value, Alike c here there (ask value) (ask' value))
    (values : List α) : Alike c here there (values.mapM ask) (values.mapM ask') := by
  induction values with
  | nil =>
    rw [List.mapM_nil, List.mapM_nil]
    exact Alike.pure []
  | cons value rest ih =>
    rw [List.mapM_cons, List.mapM_cons]
    exact (h value).bind fun _ ↦ ih.bind fun _ ↦ Alike.pure _

mutual

theorem json : (value : Json) → Alike c here there (value.ask context) (value.ask context)
  | .str template => (ask template).bind fun _ ↦ Alike.pure _
  | .arr items => (jsonItems items).bind fun _ ↦ Alike.pure _
  | .obj fields => (jsonFields fields).bind fun _ ↦ Alike.pure _
  | .null | .bool _ | .int _ | .float _ => Alike.pure _

theorem jsonItems : (items : List Json) →
    Alike c here there (Json.askItems context items) (Json.askItems context items)
  | [] => Alike.pure []
  | item :: rest => (json item).bind fun _ ↦ (jsonItems rest).bind fun _ ↦ Alike.pure _

theorem jsonFields : (fields : List (String × Json)) →
    Alike c here there (Json.askFields context fields) (Json.askFields context fields)
  | [] => Alike.pure []
  | (_, value) :: rest => (json value).bind fun _ ↦ (jsonFields rest).bind fun _ ↦ Alike.pure _

end

theorem loop (spec : LoopSpec) : Alike c here there (spec.ask context) (spec.ask context) := by
  cases spec with
  | var template => exact (ask template).bind fun _ ↦ Alike.pure _
  | items values => exact (jsonItems values).bind fun _ ↦ Alike.pure _

theorem environment (given : Environment) :
    Alike c here there (given.ask context) (given.ask context) := by
  refine list (fun entry ↦ ?_) given.entries
  exact (ask entry.2).bind fun _ ↦ Alike.pure _

theorem heading (given : Heading) :
    Alike c here there (given.ask context) (given.ask context) := by
  unfold Heading.ask
  refine (optional ask given.name).bind fun name ↦ ?_
  refine (list ask given.guards).bind fun guards ↦ ?_
  refine (optional ask given.register).bind fun register ↦ ?_
  refine (environment given.environment).bind fun own ↦ ?_
  refine (optional loop given.loop).bind fun loop ↦ ?_
  exact (optional (fun task ↦ (jsonFields task.config).bind fun _ ↦ Alike.pure _)
    given.task).bind fun task ↦ Alike.pure _

theorem inherit (inherited : Environment) (outer : List Environment) :
    Alike c here there (Interpreter.inherit context inherited outer)
      (Interpreter.inherit context inherited outer) := by
  induction outer generalizing inherited with
  | nil => exact Alike.pure inherited
  | cons own rest ih => exact (environment own).bind fun _ ↦ ih _

end Alike

end Playbook
