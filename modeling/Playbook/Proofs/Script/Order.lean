import Playbook.Proofs.Script.Heed

/-!
# The order of moments

The moments of a run explain each other. The run of a task goes from its begin to its end; only two
kinds of tasks ask whether they were cancelled, at once when they begin; and only a shell task that
was told it is not cancelled starts a process. A task runs files with what is left of the limit: so
many fewer may be opened as were opened since the run began. Scripts whose moments are in this
order, and that heed no cancellation unless they ask and close what they open, may be put together.
-/

namespace Playbook

open Engine
open Scripting (asked attempt because step work)

variable {context : Context} {outer remaining : Nat}

/-! ## How many files may be opened -/

/-- How far a run that began at depth `outer` still reaches in a session: the files that it opened
since then and the remaining ones are one more than the limit allows, as they were at the start. -/
def Session.Reaches (context : Context) (outer remaining : Nat) (s : Session) : Prop :=
  ∃ opened, s.depth = outer + opened ∧ opened + remaining = context.settings.includeLimit + 1

namespace Session

variable {s s' found : Session}

theorem depth_of_arrived (h : found = s ∨ found = s.cancel) : found.depth = s.depth := by
  rcases h with rfl | rfl <;> rfl

theorem reaches_start (context : Context) (s : Session) :
    s.Reaches context s.depth (context.settings.includeLimit + 1) :=
  ⟨0, rfl, Nat.zero_add _⟩

theorem Reaches.of_depth_eq (h : s.Reaches context outer remaining) (hdepth : s'.depth = s.depth) :
    s'.Reaches context outer remaining := by
  obtain ⟨opened, hopened, htotal⟩ := h
  exact ⟨opened, hdepth.trans hopened, htotal⟩

/-- Inside one more file one fewer may be opened. -/
theorem Reaches.opened (h : s.Reaches context outer (remaining + 1))
    (hdepth : s'.depth = s.depth + 1) : s'.Reaches context outer remaining := by
  obtain ⟨opened, hopened, htotal⟩ := h
  exact ⟨opened + 1, by omega, by omega⟩

end Session

/-! ## Moments in order -/

/-- What is known of a moment from those around it, in a run that began at depth `outer`. The run of
a task goes from its begin to its end, with files as far as the run reaches there; only two kinds of
tasks ask, at once when they begin; and a process is started by a shell task that was told it is not
cancelled. -/
def Moment.Explained (context : Context) (outer : Nat) (earlier : List Moment) (moment : Moment)
    (later : List Moment) : Prop :=
  match moment.mark with
  | .work | .ends _ => True
  | .begins spans task =>
    task ≠ .shell none ∧ moment.after = moment.before.noted (.run task.kind) ∧
      ∃ remaining inner told middle ended rest, moment.after.Reaches context outer remaining ∧
        (ended = middle ∨ ended = middle.cancel) ∧
        later = inner ++ ⟨.ends told, ended, ended⟩ :: rest ∧
        Script.Runs (task.script context spans (fileScript context remaining spans)) moment.after
          inner told middle
  | .asks => ∃ before begun spans task, earlier = before ++ [begun] ∧
      begun.mark = .begins spans task ∧ (task.kind = .shell ∨ task.kind = .cancelled)
  | .spawns => ∃ before begun asked logged spans task, earlier = before ++ [begun, asked, logged] ∧
      begun.mark = .begins spans task ∧ task.kind = .shell ∧ begun.before.cancelled = false ∧
      asked.mark = .asks ∧ asked.before.cancelled = false

theorem Moment.Explained.extend {earlier later : List Moment} {moment : Moment}
    (h : moment.Explained context outer earlier later) (front back : List Moment) :
    moment.Explained context outer (front ++ earlier) (later ++ back) := by
  unfold Explained at h ⊢
  split
  · trivial
  · trivial
  · next spans task hmark =>
    rw [hmark] at h
    obtain ⟨htold, hnoted, remaining, inner, told, middle, ended, rest, hrun⟩ := h
    obtain ⟨hreach, hended, rfl, hinner⟩ := hrun
    refine ⟨htold, hnoted, remaining, inner, told, middle, ended, rest ++ back, hreach, hended, ?_,
      hinner⟩
    rw [List.append_assoc, List.cons_append]
  · next hmark =>
    rw [hmark] at h
    obtain ⟨before, begun, spans, task, rfl, hbegun, hkind⟩ := h
    exact ⟨front ++ before, begun, spans, task, (List.append_assoc _ _ _).symm, hbegun, hkind⟩
  · next hmark =>
    rw [hmark] at h
    obtain ⟨before, begun, asked, logged, spans, task, rfl, hrest⟩ := h
    exact ⟨front ++ before, begun, asked, logged, spans, task, (List.append_assoc _ _ _).symm,
      hrest⟩

/-- Each moment is explained by those before and after it. -/
def Orderly (context : Context) (outer : Nat) : (earlier moments : List Moment) → Prop
  | _, [] => True
  | earlier, moment :: later =>
    moment.Explained context outer earlier later ∧
      Orderly context outer (earlier ++ [moment]) later

namespace Orderly

variable {earlier moments moments' : List Moment}

theorem after (h : Orderly context outer earlier moments) (front : List Moment) :
    Orderly context outer (front ++ earlier) moments := by
  induction moments generalizing earlier with
  | nil => trivial
  | cons moment later ih =>
    have hhead := h.1.extend front []
    rw [List.append_nil] at hhead
    have htail := ih h.2
    rw [← List.append_assoc] at htail
    exact ⟨hhead, htail⟩

/-- What is explained on its own is explained after anything else. -/
theorem later (h : Orderly context outer [] moments) (front : List Moment) :
    Orderly context outer front moments := by
  have hmoments := h.after front
  rwa [List.append_nil] at hmoments

theorem append (h : Orderly context outer earlier moments)
    (h' : Orderly context outer (earlier ++ moments) moments') :
    Orderly context outer earlier (moments ++ moments') := by
  induction moments generalizing earlier with
  | nil =>
    rw [List.append_nil] at h'
    exact h'
  | cons moment later ih =>
    constructor
    · exact h.1.extend [] moments'
    · apply ih h.2
      rw [List.append_assoc]
      exact h'

theorem explained (h : Orderly context outer earlier moments) {front later : List Moment}
    {moment : Moment} (hsplit : moments = front ++ moment :: later) :
    moment.Explained context outer (earlier ++ front) later := by
  induction front generalizing earlier moments with
  | nil =>
    subst hsplit
    rw [List.append_nil]
    exact h.1
  | cons first rest ih =>
    subst hsplit
    have hrest := ih h.2 rfl
    rw [List.append_assoc] at hrest
    exact hrest

/-- Work needs no explanation. -/
theorem of_work (h : ∀ moment ∈ moments, moment.mark = .work) :
    Orderly context outer earlier moments := by
  induction moments generalizing earlier with
  | nil => trivial
  | cons moment later ih =>
    constructor
    · rw [Moment.Explained, h moment List.mem_cons_self]
      trivial
    · apply ih
      intro found hfound
      exact h found (List.mem_cons_of_mem _ hfound)

end Orderly

/-! ## Scripts in this order -/

/-- A script that heeds no cancellation unless it asks, runs in an orderly way while so many files
may still be opened, and leaves as many open as there were. -/
structure Conducted (context : Context) (outer remaining : Nat) {ε α : Type} (x : Scripting ε α) :
    Prop where
  heedless : Script.Heedless x
  orderly : ∀ {s moments result s'}, s.Reaches context outer remaining →
    Script.Runs x s moments result s' → Orderly context outer [] moments ∧ s'.depth = s.depth

namespace Conducted

variable {ε ε' α β : Type} {x : Scripting ε α} {f : α → Scripting ε β}

protected theorem pure (value : α) :
    Conducted context outer remaining (pure value : Scripting ε α) where
  heedless := Scripting.heedless_pure value
  orderly _ h := by
    obtain ⟨rfl, -, rfl⟩ := Scripting.runs_pure.mp h
    exact ⟨trivial, rfl⟩

protected theorem throw (error : ε) :
    Conducted context outer remaining (throw error : Scripting ε α) where
  heedless := Scripting.heedless_throw error
  orderly _ h := by
    obtain ⟨rfl, -, rfl⟩ := Scripting.runs_throw.mp h
    exact ⟨trivial, rfl⟩

theorem work {action : Acting ε α} (h : action.Balanced) :
    Conducted context outer remaining (work action) where
  heedless := Scripting.heedless_step .work h.toHeedless
  orderly _ hruns := by
    obtain ⟨found, hfound, rfl, -, rfl⟩ := Scripting.runs_step.mp hruns
    exact ⟨⟨trivial, trivial⟩, (h.depth_eq found).trans (Session.depth_of_arrived hfound)⟩

protected theorem bind (h : Conducted context outer remaining x)
    (hf : ∀ value, Conducted context outer remaining (f value)) :
    Conducted context outer remaining (x >>= f : Scripting ε β) where
  heedless := Scripting.heedless_bind h.heedless fun value ↦ (hf value).heedless
  orderly hreach hruns := by
    rcases Scripting.runs_bind.mp hruns with
      ⟨error, -, hfirst⟩ | ⟨first, value, between, later, rfl, hfirst, hlater⟩
    · exact h.orderly hreach hfirst
    · obtain ⟨horder, hdepth⟩ := h.orderly hreach hfirst
      obtain ⟨hrest, hend⟩ := (hf value).orderly (hreach.of_depth_eq hdepth) hlater
      exact ⟨horder.append (hrest.later first), hend.trans hdepth⟩

protected theorem attempt (h : Conducted context outer remaining x) :
    Conducted context outer remaining (attempt x : Scripting ε' (Except ε α)) where
  heedless := Scripting.heedless_attempt h.heedless
  orderly hreach hruns := by
    obtain ⟨inner, -, hinner⟩ := Scripting.runs_attempt.mp hruns
    exact h.orderly hreach hinner

protected theorem because (wrap : ε → ε') (h : Conducted context outer remaining x) :
    Conducted context outer remaining (because wrap x) where
  heedless := Scripting.heedless_because wrap h.heedless
  orderly hreach hruns := by
    obtain ⟨inner, -, hinner⟩ := Scripting.runs_because.mp hruns
    exact h.orderly hreach hinner

theorem log (spans : List String) (level : Level) (message : String) :
    Conducted context outer remaining
      (Scripting.work (Acting.log spans level message) : Scripting ε Unit) :=
  work (.log spans level message)

/-- One more file is open while something is done, and closed again whatever comes of that. -/
theorem enclose (h : Conducted context outer remaining x) {next : Except ε α → Scripting ε' β}
    (hnext : ∀ result, Conducted context outer (remaining + 1) (next result)) :
    Conducted context outer (remaining + 1) (do
      Scripting.work (modify fun s ↦ { s with depth := s.depth + 1 })
      let result ← attempt x
      Scripting.work (modify fun s ↦ { s with depth := s.depth - 1 })
      next result) where
  heedless := by
    apply Scripting.heedless_bind (Scripting.heedless_step _ (.of_commutes fun _ _ ↦ rfl))
    intro _
    apply Scripting.heedless_bind (Scripting.heedless_attempt h.heedless)
    intro result
    apply Scripting.heedless_bind (Scripting.heedless_step _ (.of_commutes fun _ _ ↦ rfl))
    intro _
    exact (hnext result).heedless
  orderly {s _ _ _} hreach hruns := by
    obtain ⟨opening, later, hopening, rfl, hlater⟩ := Scripting.runs_step_bind.mp hruns
    obtain ⟨inner, told, between, last, rfl, hinner, hlast⟩ :=
      Scripting.runs_attempt_bind.mp hlater
    obtain ⟨closing, rest, hclosing, rfl, hrest⟩ := Scripting.runs_step_bind.mp hlast
    -- Inside, the depth is one more and what remains one less; closing takes both back.
    have hopened : opening.depth + 1 = s.depth + 1 :=
      congrArg (· + 1) (Session.depth_of_arrived hopening)
    obtain ⟨horder, hdepth⟩ := h.orderly (hreach.opened hopened) hinner
    have hclosed : closing.depth - 1 = s.depth := by
      rw [Session.depth_of_arrived hclosing, hdepth]
      exact congrArg (· - 1) hopened
    obtain ⟨hafter, hend⟩ := (hnext told).orderly (hreach.of_depth_eq hclosed) hrest
    exact ⟨⟨trivial, (horder.later _).append ⟨trivial, hafter.later _⟩⟩, hend.trans hclosed⟩

end Conducted

end Playbook
