import Playbook.Proofs.Script.Order

/-!
# The engine in order

The scripts of tasks, elements and files heed no cancellation unless they ask, and their moments
are in order. A shell task asks before anything else, and it starts its process after that. While a
file is open the scripts inside it reach one file less far.
-/

namespace Playbook

open Engine
open Scripting (asked attempt because step work)

variable {context : Context} {outer remaining : Nat}

/-! ## Tasks -/

namespace Task

variable {spans : List String} {file : FilePath → Scripting ExecutionError Unit}

theorem conducted_templateScript (spans : List String) (config : TemplateConfig) :
    Conducted context outer remaining (templateScript context spans config) := by
  unfold templateScript
  apply Conducted.bind (.work ((Acting.Balanced.readFor _ _).because _))
  intro text
  apply Conducted.bind (.work ((Acting.Balanced.resolving _ _).because _))
  intro rendered
  apply Conducted.bind (.work ((Acting.Balanced.changeFiles _).because _))
  intro _
  apply Conducted.bind (.work ((Acting.Balanced.changeFiles _).because _))
  intro _
  exact (Conducted.log _ _ _).bind fun _ ↦ .pure _

theorem conducted_filesScript (hfile : ∀ path, Conducted context outer remaining (file path))
    (files : List FilePath) : Conducted context outer remaining (filesScript file files) := by
  induction files with
  | nil => exact .pure ()
  | cons path rest ih => exact ((hfile path).because _).bind fun _ ↦ ih

/-- Tasks other than those of a shell ask nothing, apart from the one that only asks. -/
theorem conducted_script (hfile : ∀ path, Conducted context outer remaining (file path))
    {task : Task} (hshell : task.kind ≠ .shell) (hasks : task.kind ≠ .cancelled) :
    Conducted context outer remaining (task.script context spans file) := by
  cases task with
  | shell told => exact absurd rfl hshell
  | cancelled => exact absurd rfl hasks
  | template told =>
    cases told with
    | none => exact .throw _
    | some config => exact conducted_templateScript spans config
  | setFact config =>
    apply (Conducted.log _ _ _).bind
    intro _
    exact (Conducted.work (.change fun _ _ _ ↦ rfl)).bind fun _ ↦ .pure none
  | «include» files => exact (conducted_filesScript hfile files).bind fun _ ↦ .pure none
  | mergeFacts config =>
    exact .work ((Acting.Balanced.change fun _ _ _ ↦ rfl).bind fun _ ↦ .pure none)
  | echo message => exact .work (.pure message)
  | env told => exact .work (.pure _)
  | fail config =>
    apply Conducted.work
    rw [run]
    split <;> exact .throw _
  | badInit => exact .work (.pure none)
  | render text =>
    exact .work (((Acting.Balanced.resolving _ _).because _).bind fun _ ↦ .pure _)
  | snapshot => exact .work (.of_commutes fun _ _ _ ↦ rfl)
  | cancel => exact .work (Acting.Balanced.cancel.bind fun _ ↦ .pure none)
  | tryFile path => exact (hfile path).attempt.bind fun _ ↦ .pure _
  | inert name => exact .work (.pure none)

theorem heedless_shellScript (spans : List String) (config : ShellConfig)
    (environment : Environment) :
    Script.Heedless (shellScript context spans config environment) := by
  unfold shellScript
  apply Scripting.heedless_bind Scripting.heedless_asked
  intro cancelled
  have hrest : Script.Heedless (do
      work (Acting.log spans .debug "Executing shell command")
      let output ← step .spawns
        (execute context config.command config.shell config.directory environment)
      work (Acting.log spans .info "Shell command finished")
      return some (.str output) : Scripting TaskError (Option Json)) := by
    apply Scripting.heedless_bind (Scripting.heedless_step _ (Acting.Balanced.log ..).toHeedless)
    intro _
    apply Scripting.heedless_bind
      (Scripting.heedless_step _ (Acting.Balanced.execute ..).toHeedless)
    intro output
    apply Scripting.heedless_bind (Scripting.heedless_step _ (Acting.Balanced.log ..).toHeedless)
    intro _
    exact Scripting.heedless_pure _
  cases cancelled with
  | true => exact Scripting.heedless_throw _
  | false => exact hrest

theorem heedless_script (hfile : ∀ path, Conducted context outer remaining (file path))
    (task : Task) :
    Script.Heedless (task.script context spans file) := by
  by_cases hshell : task.kind = .shell
  · cases task with
    | shell told =>
      cases told with
      | none => exact Scripting.heedless_throw _
      | some given => exact heedless_shellScript spans given.1 given.2
    | _ => cases hshell
  · by_cases hasks : task.kind = .cancelled
    · cases task with
      | cancelled =>
        exact Scripting.heedless_bind Scripting.heedless_asked fun _ ↦ Scripting.heedless_pure _
      | _ => cases hasks
    · exact (conducted_script hfile hshell hasks).heedless

end Task

/-! ## The run of one task -/

/-- A shell task that was set up knows what to do. -/
theorem Task.ne_shell_none_of_init {kind : TaskKind} {view : TaskView} {task : Task}
    (h : Task.init kind view = .ok task) : task ≠ .shell none := by
  rintro rfl
  have hkind : TaskKind.shell = kind := kind_of_init h
  subst hkind
  rw [init] at h
  cases hread : view.read ShellConfig.decode with
  | error error =>
    rw [hread] at h
    cases h
  | ok config =>
    rw [hread] at h
    cases h

/-- A shell task asks first. Either it is cancelled and ends, or it starts a process. -/
theorem Task.runs_shellScript {spans : List String} {config : ShellConfig}
    {environment : Environment} {s s' : Session} {moments : List Moment}
    {result : Except TaskError (Option Json)}
    (h : Script.Runs (shellScript context spans config environment) s moments result s') :
    ∃ found, (found = s ∨ found = s.cancel) ∧
      ((found.cancelled = true ∧ moments = [⟨.asks, found, found⟩] ∧ result = .error .cancelled ∧
          s' = found) ∨
        (found.cancelled = false ∧ s'.depth = found.depth ∧ ∃ logged spawned rest,
          moments = ⟨.asks, found, found⟩ :: logged :: spawned :: rest ∧ logged.mark = .work ∧
          spawned.mark = .spawns ∧ ∀ moment ∈ rest, moment.mark = .work)) := by
  obtain ⟨found, later, hfound, rfl, hlater⟩ := Scripting.runs_step_bind.mp h
  refine ⟨found, hfound, ?_⟩
  change Script.Runs (if found.cancelled = true then _ else _ : Scripting TaskError (Option Json))
    found later result s' at hlater
  cases hflag : found.cancelled with
  | true =>
    rw [if_pos hflag] at hlater
    obtain ⟨rfl, rfl, rfl⟩ := Scripting.runs_throw.mp hlater
    exact .inl ⟨rfl, rfl, rfl, rfl⟩
  | false =>
    rw [if_neg (by rw [hflag]; exact Bool.false_ne_true)] at hlater
    obtain ⟨logging, afterLog, hlogging, rfl, hlog⟩ := Scripting.runs_step_bind.mp hlater
    obtain ⟨spawning, rest, hspawning, rfl, hspawn⟩ := Scripting.runs_step_bind.mp hlog
    have hlogged : logging.depth = found.depth := Session.depth_of_arrived hlogging
    have hdepth : spawning.depth = found.depth :=
      (Session.depth_of_arrived hspawning).trans hlogged
    have hexecuted := (Acting.Balanced.execute context config.command config.shell config.directory
      environment).depth_eq spawning
    rcases hrun : (execute context config.command config.shell config.directory environment).run
      spawning with ⟨_ | output, after⟩
    · rw [hrun] at hspawn hexecuted
      cases hspawn
      exact .inr ⟨rfl, hexecuted.trans hdepth, _, _, [], rfl, rfl, rfl, nofun⟩
    · rw [hrun] at hspawn hexecuted
      obtain ⟨finishing, none, hfinishing, rfl, hnone⟩ := Scripting.runs_step_bind.mp hspawn
      obtain ⟨rfl, -, rfl⟩ := Scripting.runs_pure.mp hnone
      have hend : finishing.depth = found.depth :=
        (Session.depth_of_arrived hfinishing).trans (hexecuted.trans hdepth)
      refine .inr ⟨rfl, hend, _, _, _, rfl, rfl, rfl, ?_⟩
      intro moment hmem
      obtain rfl := List.mem_singleton.mp hmem
      rfl

/-- The run of a task begins, does what its script does, and ends. -/
theorem Engine.runs_taskScript {file : FileScript} {spans : List String} {task : Task}
    {s s' : Session} {moments : List Moment} {result : Except ExecutionError _}
    (h : Script.Runs (taskScript context file spans task) s moments result s') :
    ∃ found inner told middle, (found = s ∨ found = s.cancel) ∧
      (s' = middle ∨ s' = middle.cancel) ∧
      moments = ⟨.begins spans task, found, found.noted (.run task.kind)⟩ ::
        (inner ++ [⟨.ends told, s', s'⟩]) ∧
      Script.Runs (task.script context spans (file spans)) (found.noted (.run task.kind)) inner told
        middle := by
  obtain ⟨found, rest, hfound, rfl, hrest⟩ := Scripting.runs_step_bind.mp h
  obtain ⟨inner, told, middle, last, rfl, hinner, hlast⟩ := Scripting.runs_attempt_bind.mp hrest
  obtain ⟨ended, none, hended, rfl, hnone⟩ := Scripting.runs_step_bind.mp hlast
  obtain ⟨rfl, -, rfl⟩ := Scripting.runs_pure.mp hnone
  exact ⟨found, inner, told, middle, hfound, hended, rfl, hinner⟩

section

variable {spans : List String} {file : FilePath → Scripting ExecutionError Unit}
  {found s' : Session} {inner : List Moment} {told : Except TaskError (Option Json)}

/-- What a shell task does is explained by its begin. -/
theorem Task.orderly_shellScript {given : ShellConfig × Environment}
    (h : Script.Runs (shellScript context spans given.1 given.2) (found.noted (.run .shell)) inner
      told s') :
    Orderly context outer [⟨.begins spans (.shell (some given)), found, found.noted (.run .shell)⟩]
      inner ∧ s'.depth = found.depth := by
  let begun : Moment :=
    ⟨.begins spans (.shell (some given)), found, found.noted (.run .shell)⟩
  obtain ⟨asking, hasking, houtcome⟩ := runs_shellScript h
  have hbegan : asking.depth = begun.after.depth := Session.depth_of_arrived hasking
  rcases houtcome with
    ⟨-, rfl, -, rfl⟩ | ⟨hflag, hdepth, logged, spawned, rest, rfl, hlogged, hspawned, hrest⟩
  · exact ⟨⟨⟨[], begun, spans, _, rfl, rfl, .inl rfl⟩, trivial⟩, hbegan⟩
  · have hbegun : begun.before.cancelled = false := by
      rcases hasking with rfl | rfl
      · exact hflag
      · cases hflag
    have hlogging :
        logged.Explained context outer [begun, ⟨.asks, asking, asking⟩] (spawned :: rest) := by
      rw [Moment.Explained, hlogged]
      trivial
    have hspawning :
        spawned.Explained context outer [begun, ⟨.asks, asking, asking⟩, logged] rest := by
      rw [Moment.Explained, hspawned]
      exact ⟨[], begun, _, logged, spans, _, rfl, rfl, rfl, hbegun, rfl, hflag⟩
    exact ⟨⟨⟨[], begun, spans, _, rfl, rfl, .inl rfl⟩, hlogging, hspawning, .of_work hrest⟩,
      hdepth.trans hbegan⟩

/-- A task that only asks is explained by its begin as well. -/
theorem Task.orderly_cancelled
    (h : Script.Runs (Task.cancelled.script context spans file) (found.noted (.run .cancelled))
      inner told s') :
    Orderly context outer [⟨.begins spans .cancelled, found, found.noted (.run .cancelled)⟩] inner ∧
      s'.depth = found.depth := by
  obtain ⟨asking, none, hasking, rfl, hnone⟩ := Scripting.runs_step_bind.mp h
  obtain ⟨rfl, -, rfl⟩ := Scripting.runs_pure.mp hnone
  have hdepth : s'.depth = (found.noted (.run .cancelled)).depth :=
    Session.depth_of_arrived hasking
  exact ⟨⟨⟨[], _, spans, .cancelled, rfl, rfl, .inr rfl⟩, trivial⟩, hdepth⟩

/-- So is what any task does, with files as far as the run reaches when it begins. -/
theorem Task.orderly_script (hfile : ∀ path, Conducted context outer remaining (file path))
    {task : Task} (htold : task ≠ .shell none) (hreach : found.Reaches context outer remaining)
    (h : Script.Runs (task.script context spans file) (found.noted (.run task.kind)) inner told
      s') :
    Orderly context outer [⟨.begins spans task, found, found.noted (.run task.kind)⟩] inner ∧
      s'.depth = found.depth := by
  -- What asks needs the begin in front of it; everything else is in order on its own.
  by_cases hasking : task.kind = .shell ∨ task.kind = .cancelled
  · cases task with
    | shell given =>
      cases given with
      | none => exact absurd rfl htold
      | some given => exact orderly_shellScript h
    | cancelled => exact orderly_cancelled h
    | _ => rcases hasking with hkind | hkind <;> cases hkind
  · obtain ⟨hshell, hasks⟩ := not_or.mp hasking
    have hnoted : (found.noted (.run task.kind)).Reaches context outer remaining := hreach
    obtain ⟨horder, hdepth⟩ := (conducted_script hfile hshell hasks).orderly hnoted h
    exact ⟨horder.later _, hdepth⟩

end

/-- In the run of a task everything is explained, from its begin on. -/
theorem Engine.conducted_taskScript
    (hfile : ∀ spans path,
      Conducted context outer remaining (fileScript context remaining spans path))
    (spans : List String) {task : Task} (htold : task ≠ .shell none) :
    Conducted context outer remaining
      (taskScript context (fileScript context remaining) spans task) where
  heedless := by
    apply Scripting.heedless_bind (Scripting.heedless_step _ (Acting.Balanced.note _).toHeedless)
    intro _
    apply Scripting.heedless_bind
    · exact Scripting.heedless_attempt (Task.heedless_script (hfile spans) task)
    · intro result
      apply Scripting.heedless_bind (Scripting.heedless_step _ (Acting.Balanced.pure ()).toHeedless)
      intro _
      exact Scripting.heedless_pure _
  orderly {s _ _ ended} hreach h := by
    obtain ⟨found, inner, told, middle, hfound, hended, rfl, hinner⟩ := runs_taskScript h
    let begun : Moment := ⟨.begins spans task, found, found.noted (.run task.kind)⟩
    have hbegan : found.depth = s.depth := Session.depth_of_arrived hfound
    have hreach' : found.Reaches context outer remaining := hreach.of_depth_eq hbegan
    have hbegun : begun.Explained context outer [] (inner ++ [⟨.ends told, ended, ended⟩]) :=
      ⟨htold, rfl, remaining, inner, told, middle, ended, [], hreach', hended, rfl, hinner⟩
    obtain ⟨horder, hdepth⟩ := Task.orderly_script (hfile spans) htold hreach' hinner
    exact ⟨⟨hbegun, horder.append ⟨trivial, trivial⟩⟩,
      (Session.depth_of_arrived hended).trans (hdepth.trans hbegan)⟩

/-! ## Elements and files -/

namespace Engine

theorem conducted_holdsScript (spans guards : List String) :
    Conducted context outer remaining (holdsScript context spans guards) := by
  induction guards with
  | nil => exact .pure true
  | cons guard rest ih =>
    apply (Conducted.work (.resolving context _)).attempt.bind
    intro result
    split
    · exact .pure false
    · exact ih
    · exact (Conducted.log _ _ _).bind fun _ ↦ .pure false

theorem conducted_loopItemsScript (spec : LoopSpec) :
    Conducted context outer remaining (loopItemsScript context spec) := by
  apply ((Conducted.work (.resolving context _)).because _).bind
  intro resolved
  cases resolved with
  | items values => exact .pure values
  | var rendered =>
    dsimp only
    cases Json.parseList rendered with
    | ok values => exact .pure values
    | error reason => exact .throw _

theorem conducted_storeScript (spans : List String) (element : Element) (output : Option Json) :
    Conducted context outer remaining (storeScript spans element output) := by
  unfold storeScript
  split
  · exact (Conducted.log _ _ _).bind fun _ ↦ .work (.change fun _ _ _ ↦ rfl)
  · exact .pure ()

theorem conducted_allScript {run : Slot → Scripting ExecutionError Unit}
    (h : ∀ slot, Conducted context outer remaining (run slot)) (slots : List Slot) :
    Conducted context outer remaining (allScript run slots) := by
  induction slots with
  | nil => exact .pure ()
  | cons slot rest ih => exact (h slot).bind fun _ ↦ ih

theorem conducted_itemsScript {once : Scripting ExecutionError Unit}
    (h : Conducted context outer remaining once) (items : List Json) :
    Conducted context outer remaining (itemsScript once items) := by
  induction items with
  | nil => exact .pure ()
  | cons item rest ih =>
    apply (Conducted.work (.change fun _ _ _ ↦ rfl)).bind
    intro _
    apply h.attempt.bind
    intro result
    apply (Conducted.work (.change fun _ _ _ ↦ rfl)).bind
    intro _
    cases result with
    | ok _ => exact ih
    | error error => exact .throw error

section

variable (hfile : ∀ spans path,
    Conducted context outer remaining (fileScript context remaining spans path))

include hfile

theorem conducted_dispatchScript (spans : List String) (element : Element)
    (environment : Environment) :
    Conducted context outer remaining
      (dispatchScript context (fileScript context remaining) spans element environment) := by
  unfold dispatchScript
  split
  · exact .throw _
  · next invocation _ =>
    split
    · exact .throw _
    · next kind _ =>
      apply (Conducted.log _ _ _).bind
      intro _
      apply (Conducted.work (.note _)).bind
      intro _
      cases hinit : Task.init kind ⟨some invocation, environment⟩ with
      | error error => exact .throw _
      | ok task =>
        have htold : task ≠ .shell none := Task.ne_shell_none_of_init hinit
        have hrun : Conducted context outer remaining (runTaskScript context
            (fileScript context remaining) spans element invocation.kind task) := by
          apply (conducted_taskScript hfile spans htold).bind
          intro result
          cases result with
          | ok output => exact .pure output
          | error error =>
            dsimp only
            split
            · exact (Conducted.log _ _ _).bind fun _ ↦ .pure none
            · exact .throw _
        exact hrun.bind fun output ↦ conducted_storeScript spans element output

theorem conducted_elementScript (tree : Tree) (depth : Nat) (spans : List String) (slot : Slot) :
    Conducted context outer remaining
      (elementScript context (fileScript context remaining) tree depth spans slot) := by
  induction depth generalizing spans slot with
  | zero => exact .throw _
  | succ depth ih =>
    rw [elementScript]
    cases tree.get? slot with
    | none => exact .throw _
    | some element =>
      dsimp only
      have honce : Conducted context outer remaining (onceScript context
          (fileScript context remaining) tree (elementScript context
            (fileScript context remaining) tree depth (spans ++ [element.displayName]))
          (spans ++ [element.displayName]) slot element) := by
        apply ((Conducted.work (.resolving context _)).because _).bind
        rintro ⟨resolved, environment⟩
        dsimp only
        split
        · exact conducted_allScript (ih _) _
        · exact conducted_dispatchScript hfile _ _ _
      apply (conducted_holdsScript _ _).bind
      intro passed
      cases passed with
      | false => exact .log _ _ _
      | true =>
        simp only [if_true]
        cases element.loop with
        | none => exact honce
        | some spec =>
          apply (conducted_loopItemsScript spec).bind
          intro items
          exact (Conducted.log _ _ _).bind fun _ ↦ conducted_itemsScript honce items

theorem conducted_treeScript (spans : List String) (tree : Tree) :
    Conducted context outer remaining
      (treeScript context (fileScript context remaining) spans tree) :=
  conducted_allScript (conducted_elementScript hfile tree _ spans) tree.roots

end

theorem conducted_loadScript (path : FilePath) :
    Conducted context outer remaining (loadScript context path) := by
  apply ((Conducted.work (.readFor _ _)).because _).bind
  intro text
  cases Document.ofText context.registry text with
  | ok tree => exact .pure tree
  | error error => exact .throw error

theorem conducted_openScript {inside : Tree → Scripting ExecutionError Unit}
    (h : ∀ tree, Conducted context outer remaining (inside tree)) (spans : List String)
    (path : FilePath) :
    Conducted context outer (remaining + 1) (openScript context spans path inside) := by
  apply (Conducted.log _ _ _).bind
  intro _
  apply ((conducted_loadScript _).because _).bind
  intro tree
  apply (Conducted.log _ _ _).bind
  intro _
  apply (h tree).enclose
  intro result
  cases result with
  | ok _ => exact .pure ()
  | error error => exact .throw error

theorem conducted_fileScript (context : Context) (outer remaining : Nat) (spans : List String)
    (path : FilePath) :
    Conducted context outer remaining (fileScript context remaining spans path) := by
  induction remaining generalizing spans path with
  | zero => exact .throw _
  | succ remaining ih =>
    apply (Conducted.work .depth).bind
    intro depth
    split
    · exact .throw _
    · exact conducted_openScript (conducted_treeScript ih spans) spans path

end Engine

theorem Entry.conducted_script (context : Context) (outer : Nat) (entry : Entry) :
    Conducted context outer (context.settings.includeLimit + 1) (entry.script context) := by
  have hfile := conducted_fileScript context outer (context.settings.includeLimit + 1)
  cases entry with
  | text content =>
    rw [Entry.script]
    cases Document.ofText context.registry content with
    | ok tree => exact conducted_treeScript hfile [] tree
    | error error => exact .throw _
  | file path => exact hfile [] path
  | playbook path =>
    apply (Conducted.log _ _ _).bind
    intro _
    apply (hfile [] path).attempt.bind
    intro result
    cases result with
    | ok _ => exact .log _ _ _
    | error error => exact (Conducted.log _ _ _).bind fun _ ↦ .throw error

end Playbook
