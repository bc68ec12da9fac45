import Playbook.Proofs.Script.Conducted
import Playbook.Template.Engine

/-!
# Cancelled runs

A run can be cancelled at any time, from outside or by one of its own tasks, and it stays cancelled
until it ends. The engine goes on all the same; only tasks that run a shell ask before they start
one. So a shell task that begins in a cancelled run starts no process and fails, and if that is
ignored, so does the next. What does not ask cannot tell the difference, and the files that it runs
may open just as many others.
-/

namespace Playbook

open Engine
open Scripting (asked attempt because step work)

variable {context : Context}

theorem Session.cancel_of_cancelled {s : Session} (h : s.cancelled = true) : s.cancel = s := by
  cases s
  cases h
  rfl

/-- From the moment in which a run is cancelled it stays cancelled, to its end. -/
def StaysCancelled (s : Session) (moments : List Moment) (s' : Session) : Prop :=
  (s.cancelled = true → (∀ moment ∈ moments, moment.before.cancelled = true) ∧
    s'.cancelled = true) ∧
  ∀ earlier moment later, moments = earlier ++ moment :: later →
    moment.before.cancelled = true ∨ moment.after.cancelled = true →
    (∀ next ∈ later, next.before.cancelled = true ∧ next.after.cancelled = true) ∧
      s'.cancelled = true

/-- The run of a task goes as it goes without any cancellation, up to its end or until it asks and
is told of one. `inner` are the moments of the run, which began in `s` and ended in `ended`. The
whole run began at depth `outer`, and without a cancellation the task runs files exactly as far as
the whole run still reaches in `s`. -/
def Task.GoesAsUncancelled (context : Context) (outer : Nat) (spans : List String) (task : Task)
    (s : Session) (inner : List Moment) (told : Except TaskError (Option Json)) (ended : Session) :
    Prop :=
  ∃ remaining, s.Reaches context outer remaining ∧
    let undisturbed := (task.run context spans (runFileWithin context remaining spans)).run
      s.uncancelled
    let same := told = undisturbed.1 ∧ ended.uncancelled = undisturbed.2.uncancelled
    let script := task.script context spans (fileScript context remaining spans)
    SameUntilAsked same inner (script.play [] s.uncancelled).moments ∧
      ((∀ moment ∈ inner, moment.mark ≠ .asks) → same)

/-- A shell task whose run begins in a cancelled session asks and fails. Nothing else happens: no
process is started, and the session is the same but for the note that the task began. -/
def Moment.ShellRefused (begun : Moment) (inner : List Moment)
    (told : Except TaskError (Option Json)) (ended : Session) : Prop :=
  begun.before.cancelled = true →
    inner = [⟨.asks, begun.after, begun.after⟩] ∧ told = .error .cancelled ∧
      ended = begun.before.noted (.run .shell)

theorem Script.Runs.staysCancelled {α : Type} {script : Script α} (hscript : script.Heedless)
    {s s' : Session} {moments : List Moment} {value : α} (h : script.Runs s moments value s') :
    StaysCancelled s moments s' := by
  constructor
  · intro hs
    obtain ⟨hmoments, hend⟩ := h.cancelled hscript hs
    exact ⟨fun moment hmem ↦ (hmoments moment hmem).1, hend⟩
  · induction h with
    | done value s =>
      intro earlier moment later hsplit
      cases earlier <;> cases hsplit
    | @step mark change next s found s' moments value arrived later ih =>
      obtain ⟨-, hstays, -, hlater⟩ := hscript
      intro earlier moment rest hsplit hcancelled
      cases earlier with
      | nil =>
        cases hsplit
        have hafter : (change found).cancelled = true := by
          rcases hcancelled with hbefore | hafter
          · exact hstays found hbefore
          · exact hafter
        exact later.cancelled (hlater found) hafter
      | cons first front =>
        cases hsplit
        exact ih (hlater found) front moment rest rfl hcancelled

theorem Task.goesAsUncancelled {spans : List String} {task : Task} {outer remaining : Nat}
    {s middle : Session} {inner : List Moment} {told : Except TaskError (Option Json)}
    (hreach : s.Reaches context outer remaining)
    (h : Script.Runs (task.script context spans (fileScript context remaining spans)) s inner told
      middle) {ended : Session} (hended : ended = middle ∨ ended = middle.cancel) :
    task.GoesAsUncancelled context outer spans s inner told ended := by
  let script := task.script context spans (fileScript context remaining spans)
  have hscript : Script.Heedless script :=
    heedless_script (conducted_fileScript context outer remaining spans) task
  have hfile : (fun path ↦ Scripting.alone (fileScript context remaining spans path)) =
      runFileWithin context remaining spans :=
    funext (alone_fileScript context remaining spans)
  have halone : (((Script.play [] script s.uncancelled).value,
      (Script.play [] script s.uncancelled).session)) =
      (task.run context spans (runFileWithin context remaining spans)).run s.uncancelled := by
    rw [Script.play_nil, ← hfile, ← alone_script]
    rfl
  have hsame := h.same_until_asked hscript (Script.runs_play script [] s.uncancelled) rfl
  have hended' : ended.uncancelled = middle.uncancelled := by
    rcases hended with rfl | rfl
    · rfl
    · exact Session.uncancelled_cancel middle
  have hundisturbed : (told = (Script.play [] script s.uncancelled).value ∧
        middle.uncancelled = (Script.play [] script s.uncancelled).session.uncancelled) =
      (told = ((task.run context spans (runFileWithin context remaining spans)).run
          s.uncancelled).1 ∧
        ended.uncancelled = ((task.run context spans (runFileWithin context remaining spans)).run
          s.uncancelled).2.uncancelled) := by
    rw [← halone, hended']
  rw [hundisturbed] at hsame
  exact ⟨remaining, hreach, hsame, hsame.of_unasked⟩

theorem Task.shellRefused {spans : List String} {begun : Moment} {given : ShellConfig × Environment}
    {inner : List Moment} {told : Except TaskError (Option Json)} {middle ended : Session}
    (hafter : begun.after = begun.before.noted (.run .shell))
    (h : Script.Runs (shellScript context spans given.1 given.2) begun.after inner told middle)
    (hended : ended = middle ∨ ended = middle.cancel) : begun.ShellRefused inner told ended := by
  intro hbefore
  have hcancelled : begun.after.cancelled = true := by
    rw [hafter]
    exact hbefore
  obtain ⟨found, hfound, houtcome⟩ := runs_shellScript h
  have hfound' : found = begun.after := by
    rcases hfound with rfl | rfl
    · rfl
    · exact Session.cancel_of_cancelled hcancelled
  subst hfound'
  rcases houtcome with ⟨-, rfl, rfl, rfl⟩ | ⟨hflag, -⟩
  · refine ⟨rfl, rfl, ?_⟩
    rw [← hafter]
    rcases hended with rfl | rfl
    · rfl
    · exact Session.cancel_of_cancelled hcancelled
  · rw [hcancelled] at hflag
    cases hflag

/-- A run in steps is a run of the engine when nobody disturbs it. However it is cancelled, from
outside before any of its steps or by a task, it stays cancelled from then on. Every task whose run
begins has an end. A shell task that begins in a cancelled run is refused, and any task goes as if
nothing were cancelled unless it asks, with as many files left to open. Only tasks that run a shell
or just look ask, first thing, and a process is only started by a shell task that began uncancelled
and was told so. -/
theorem Entry.script_cancelled (context : Context) (entry : Entry) :
    (∀ s, ∃ moments, Script.Runs (entry.script context) s moments
      ((entry.execute context).run s).1 ((entry.execute context).run s).2) ∧
    ∀ s moments result s', Script.Runs (entry.script context) s moments result s' →
      StaysCancelled s moments s' ∧
      (∀ earlier begun later spans task, moments = earlier ++ begun :: later →
        begun.mark = .begins spans task →
        ∃ inner told ended rest, later = inner ++ ⟨.ends told, ended, ended⟩ :: rest ∧
          (task.kind = .shell → begun.ShellRefused inner told ended) ∧
          task.GoesAsUncancelled context s.depth spans begun.after inner told ended) ∧
      (∀ earlier asking later, moments = earlier ++ asking :: later → asking.mark = .asks →
        ∃ before begun spans task, earlier = before ++ [begun] ∧
          begun.mark = .begins spans task ∧ (task.kind = .shell ∨ task.kind = .cancelled)) ∧
      ∀ earlier spawned later, moments = earlier ++ spawned :: later → spawned.mark = .spawns →
        ∃ before begun asked logged spans task, earlier = before ++ [begun, asked, logged] ∧
          begun.mark = .begins spans task ∧ task.kind = .shell ∧ begun.before.cancelled = false ∧
          asked.mark = .asks ∧ asked.before.cancelled = false := by
  constructor
  · intro s
    have halone : (((entry.script context).play [] s).value,
        ((entry.script context).play [] s).session) = (entry.execute context).run s := by
      rw [Script.play_nil, ← Entry.alone_script]
      rfl
    have hplay := Script.runs_play (entry.script context) [] s
    exact ⟨_, by rw [← halone]; exact hplay⟩
  · intro s moments result s' hruns
    have hscript := entry.conducted_script context s.depth
    obtain ⟨horder, -⟩ := hscript.orderly (s.reaches_start context) hruns
    refine ⟨hruns.staysCancelled hscript.heedless, ?_, ?_, ?_⟩
    · intro earlier begun later spans task hsplit hmark
      have hbegun := horder.explained hsplit
      rw [Moment.Explained, hmark] at hbegun
      obtain ⟨htold, hafter, remaining, inner, told, middle, ended, rest, hrun⟩ := hbegun
      obtain ⟨hreach, hended, hlater, hinner⟩ := hrun
      refine ⟨inner, told, ended, rest, hlater, ?_, task.goesAsUncancelled hreach hinner hended⟩
      intro hkind
      cases task with
      | shell given =>
        cases given with
        | none => exact absurd rfl htold
        | some given => exact Task.shellRefused hafter hinner hended
      | _ => cases hkind
    · intro earlier asking later hsplit hmark
      have hasking := horder.explained hsplit
      rw [Moment.Explained, hmark] at hasking
      exact hasking
    · intro earlier spawned later hsplit hmark
      have hspawned := horder.explained hsplit
      rw [Moment.Explained, hmark] at hspawned
      exact hspawned

/-- Two shell tasks in a loop, whose errors are ignored, and a task after them. -/
def shellLoopText : String :=
  "- shell: \x7bcmd: touch a\x7d\n  loop: \x7bitems: [1, 2]\x7d\n  ignore_errors: true\n" ++
    "- echo: \x7bmsg: m\x7d\n  register: done\n"

/-- The run of a shell task begins although the run is cancelled. -/
def Moment.beginsRefused (moment : Moment) : Bool :=
  match moment.mark with
  | .begins _ (.shell _) => moment.before.cancelled
  | _ => false

theorem Moment.begins_of_beginsRefused {moment : Moment} (h : moment.beginsRefused = true) :
    ∃ spans given, moment.mark = .begins spans (.shell given) ∧ moment.before.cancelled = true := by
  unfold beginsRefused at h
  split at h
  · next spans given hmark => exact ⟨spans, given, hmark, h⟩
  · cases h

/-- Cancelled from outside before its second step, the run comes to its end all the same: two shell
tasks begin, each of them asks and fails at once, and no process is started. -/
theorem Entry.script_cancelled_looping : ∃ registry story,
    Registry.ofKinds (TaskKind.standard ++ TaskKind.observers) = .ok registry ∧
      story = ((Entry.text shellLoopText).script
        ⟨.standard, registry, Template.resolver, ∅⟩).play [false, true]
          (.start .standard (.initial ["work"])) ∧
      story.value.isOk = true ∧ story.session.facts.contains "done" = true ∧
      (story.moments.filter Moment.beginsRefused).length = 2 ∧
      (∀ earlier begun later, story.moments = earlier ++ begun :: later →
        begun.beginsRefused = true → ∃ ended rest, ended = begun.before.noted (.run .shell) ∧
          later = ⟨.asks, begun.after, begun.after⟩ ::
            ⟨.ends (.error .cancelled), ended, ended⟩ :: rest) ∧
      StaysCancelled (.start .standard (.initial ["work"])) story.moments story.session ∧
      ∀ moment ∈ story.moments, moment.mark ≠ .spawns := by
  have hplay : ∃ registry story,
      Registry.ofKinds (TaskKind.standard ++ TaskKind.observers) = .ok registry ∧
      story = ((Entry.text shellLoopText).script
        ⟨.standard, registry, Template.resolver, ∅⟩).play [false, true]
          (.start .standard (.initial ["work"])) ∧
      (story.value.isOk && story.session.facts.contains "done" &&
        (story.moments.filter Moment.beginsRefused).length == 2 &&
        story.moments.tail.all (·.before.cancelled)) = true := by
    refine ⟨_, _, rfl, rfl, ?_⟩
    decide +kernel
  obtain ⟨registry, story, hregistry, hstory, hfound⟩ := hplay
  simp only [Bool.and_eq_true, beq_iff_eq, List.all_eq_true] at hfound
  obtain ⟨⟨⟨hvalue, hdone⟩, hbegun⟩, hcancelled⟩ := hfound
  have hruns : Script.Runs ((Entry.text shellLoopText).script
      ⟨.standard, registry, Template.resolver, ∅⟩) (.start .standard (.initial ["work"]))
      story.moments story.value story.session := by
    rw [hstory]
    exact Script.runs_play _ _ _
  obtain ⟨-, hall⟩ := Entry.script_cancelled ⟨.standard, registry, Template.resolver, ∅⟩
    (.text shellLoopText)
  obtain ⟨hstays, hbegins, -, hspawned⟩ := hall _ _ _ _ hruns
  refine ⟨registry, story, hregistry, hstory, hvalue, hdone, hbegun, ?_, hstays, ?_⟩
  · intro earlier begun later hsplit hrefused
    obtain ⟨spans, given, hmark, hbefore⟩ := Moment.begins_of_beginsRefused hrefused
    obtain ⟨inner, told, ended, rest, rfl, hshell, -⟩ :=
      hbegins earlier begun later spans _ hsplit hmark
    obtain ⟨rfl, rfl, hended⟩ := hshell rfl hbefore
    exact ⟨ended, rest, hended, rfl⟩
  · intro moment hmem hmark
    obtain ⟨earlier, later, hsplit⟩ := List.append_of_mem hmem
    obtain ⟨before, begun, asked, logged, -, -, rfl, -, -, -, -, hasked⟩ :=
      hspawned earlier moment later hsplit hmark
    have htail : asked ∈ story.moments.tail := by
      rw [hsplit]
      cases before <;> simp
    rw [hcancelled asked htail] at hasked
    cases hasked

end Playbook
