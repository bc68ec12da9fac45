import Playbook.Proofs.Agreement
import Playbook.Proofs.Forest
import Playbook.Proofs.Leaves

/-!
# What running elements keeps

An invariant of sessions is upheld when no single change that a run of elements makes breaks it, as
long as only certain strings are asked for. Then guards, loops, tasks and whole elements keep it,
provided the files that tasks run keep it, and an element fails in one of a few ways. Everything is
stated of two runs that differ in how they run files, and therefore of one run as well.
-/

namespace Playbook

open Engine
open Acting (Agree AgreeKeeping Ensures Keeps)

/-! ## How runs fail -/

/-- A failure of a task alone: no lookup, no `init` and no other file stands behind it. -/
def TaskError.IsPlain : TaskError → Prop
  | .notRegistered _ | .missing | .init .. | .include .. => False
  | _ => True

/-- A failure of a task, when the files that it runs fail as `P` says. -/
inductive TaskError.Arises (P : ExecutionError → Prop) : TaskError → Prop where
  | plain {error : TaskError} (plain : error.IsPlain) : Arises P error
  | init {task : String} {cause : TaskError} (plain : cause.IsPlain) :
      Arises P (.init task cause)
  | «include» {file : String} {cause : ExecutionError} (inside : P cause) :
      Arises P (.include file cause)

/-- A failure of an element, when the files that tasks run fail as `P` says. -/
inductive ExecutionError.Arises (P : ExecutionError → Prop) : ExecutionError → Prop where
  | resolve {cause : ResolveError} : Arises P (.resolve cause)
  | loopNotArray {rendered reason : String} : Arises P (.loopNotArray rendered reason)
  | task {task : String} {cause : TaskError} (arises : cause.Arises P) :
      Arises P (.task task cause)

/-! ## Upheld invariants -/

/-- The session with one more file read. -/
def Session.withRead (s : Session) (reading : Reading) : Session :=
  { s with journal := { s.journal with reads := reading :: s.journal.reads } }

/-- An invariant that no change of a run breaks while the facts stay as they are and the strings
asked for are in `G`. A template file may be asked for as soon as it was read. -/
structure Steady (context : Context) (G : String → Prop) (I : Session → Prop) : Prop where
  logged : ∀ s entry, I s → I (s.logged entry)
  noted : ∀ s event, I s → I (s.noted event)
  files : ∀ s files, I s → I { s with files }
  cancelled : ∀ s, I s → I s.cancel
  asked : ∀ s text, G text → I s → I (s.withCalls (text :: s.journal.calls))
  unread : ∀ s path fault, I s → I (s.withRead ⟨.template, path, .error fault⟩)
  template : ∀ s path text, I s →
    I ((s.withRead ⟨.template, path, .ok text⟩).withCalls (text :: s.journal.calls))
  /-- Only tasks of one kind render texts that were resolved before. -/
  rendered : (∃ name, context.registry.find name = .ok .render) → ∀ text, G text

/-- An invariant that no change of a run breaks, also when facts change. -/
structure Upheld (context : Context) (G : String → Prop) (I : Session → Prop) : Prop extends
    Steady context G I where
  facts : ∀ s facts, I s → I { s with facts }

variable {context : Context} {G : String → Prop} {I : Session → Prop} {P : ExecutionError → Prop}

namespace Steady

section

variable {ε α : Type} {bad : ε → Session → Prop}

/-- What is asked of the depth and the facts alone is steady. -/
theorem of_depth_facts (context : Context) (Q : Nat → Facts → Prop) :
    Steady context (fun _ ↦ True) (fun s ↦ Q s.depth s.facts) where
  logged _ _ hs := hs
  noted _ _ hs := hs
  files _ _ hs := hs
  cancelled _ hs := hs
  asked _ _ _ hs := hs
  unread _ _ _ hs := hs
  template _ _ _ hs := hs
  rendered _ _ := trivial

theorem log (h : Steady context G I) (spans : List String) (level : Level) (message : String) :
    Ensures I (Acting.log spans level message) (fun _ ↦ I) bad :=
  Agree.log fun s hs ↦ h.logged s _ hs

theorem note (h : Steady context G I) (event : TaskEvent) :
    Ensures I (Acting.note event) (fun _ ↦ I) bad :=
  Agree.modify fun s hs ↦ h.noted s event hs

theorem withCalls (h : Steady context G I) {s : Session} (hs : I s) {asked : List String}
    (hasked : ∀ text ∈ asked, G text) : I (s.withCalls (asked ++ s.journal.calls)) := by
  induction asked with
  | nil => exact hs
  | cons text rest ih =>
    have hrest := ih fun found hmem ↦ hasked found (List.mem_cons_of_mem _ hmem)
    exact h.asked _ text (hasked text List.mem_cons_self) hrest

theorem resolving (h : Steady context G I) {resolve : Scope → Resolving α} {Q : α → Prop}
    (hgives : ∀ scope, Resolving.Gives G (resolve scope) Q) :
    Ensures I (Acting.resolving context resolve) (fun value s ↦ Q value ∧ I s) (fun _ ↦ I) := by
  intro s hs
  have hrun := resolving_run context resolve s
  obtain ⟨⟨asked, hcalls, hasked⟩, hvalue⟩ :=
    hgives ⟨context.resolver, s.facts⟩ (.start s.journal.calls)
  have hkeeps := h.withCalls hs hasked
  rcases hresolve : (resolve ⟨context.resolver, s.facts⟩).run (.start s.journal.calls) with
    ⟨result, r⟩
  rw [hresolve] at hrun hcalls hvalue
  have hcalls' : r.calls = asked ++ s.journal.calls := hcalls
  rw [← hcalls'] at hkeeps
  cases result with
  | ok value => exact .inl ⟨value, _, hrun, hrun, hvalue value rfl, hkeeps⟩
  | error error => exact .inr ⟨error, _, hrun, hrun, hkeeps⟩

end

/-! ## Guards and loops -/

theorem holds (h : Steady context G I) (spans : List String) {guards : List String}
    (hG : ∀ guard ∈ guards, G guard) {bad : ExecutionError → Session → Prop} :
    Ensures I (Engine.holds context spans guards) (fun _ ↦ I) bad := by
  induction guards with
  | nil => exact Agree.pure fun s hs ↦ hs
  | cons guard rest ih =>
    have hguard : Ensures (ε := ExecutionError) I
        (Acting.attempt (Acting.resolving context (Resolving.text · guard))) (fun _ ↦ I) bad := by
      apply Agree.attempt
      have hasked := h.resolving fun scope ↦
        Resolving.Gives.text scope (hG guard List.mem_cons_self)
      exact hasked.imp_ok fun _ s hs ↦ hs.2
    have hrest := ih fun found hmem ↦ hG found (List.mem_cons_of_mem _ hmem)
    refine hguard.bind fun result ↦ ?_
    split
    · exact Agree.pure fun s hs ↦ hs
    · exact hrest
    · exact (h.log spans .warn _).bind fun _ ↦ Agree.pure fun s hs ↦ hs

theorem loopItems (h : Steady context G I) {spec : LoopSpec} (hG : ∀ text ∈ spec.leaves, G text) :
    Keeps I (·.Arises P) (Engine.loopItems context spec) := by
  have hspec : Keeps I (·.Arises P)
      (Acting.because ExecutionError.resolve (Acting.resolving context (spec.resolve ·))) := by
    apply Agree.because
    have hasked := h.resolving fun scope ↦ Resolving.Gives.loop scope hG
    exact hasked.imp (fun _ s hs ↦ hs.2) fun _ s hs ↦ ⟨.resolve, hs⟩
  refine hspec.bind fun resolved ↦ ?_
  cases resolved with
  | items values => exact Agree.pure fun s hs ↦ hs
  | var rendered =>
    dsimp only
    cases Json.parseList rendered with
    | ok values => exact Agree.pure fun s hs ↦ hs
    | error reason => exact Agree.throw fun s hs ↦ ⟨.loopNotArray, hs⟩

end Steady

namespace Upheld

theorem runAll {run other : Slot → Run} {slots : List Slot} {bad : ExecutionError → Session → Prop}
    (hrun : ∀ slot ∈ slots, Agree I (run slot) (other slot) (fun _ ↦ I) bad) :
    Agree I (Engine.runAll run slots) (Engine.runAll other slots) (fun _ ↦ I) bad := by
  induction slots with
  | nil => exact Agree.pure fun s hs ↦ hs
  | cons slot rest ih =>
    have hrest := ih fun found hmem ↦ hrun found (List.mem_cons_of_mem _ hmem)
    exact (hrun slot List.mem_cons_self).bind fun _ ↦ hrest

theorem runItems (h : Upheld context G I) {once other : Run} (items : List Json)
    (honce : AgreeKeeping I (·.Arises P) once other) :
    AgreeKeeping I (·.Arises P) (Engine.runItems once items) (Engine.runItems other items) := by
  induction items with
  | nil => exact Agree.pure fun s hs ↦ hs
  | cons item rest ih =>
    let outcome (result : Except ExecutionError Unit) (s : Session) : Prop :=
      (∀ error, result = .error error → error.Arises P) ∧ I s
    have hbind : Keeps I (ExecutionError.Arises P) (modify (·.setFact Facts.loopItem item)) :=
      Agree.modify fun s hs ↦ h.facts s _ hs
    have hunbind (result : Except ExecutionError Unit) : Ensures (outcome result)
        (modify (·.removeFact Facts.loopItem)) (fun _ ↦ outcome result)
        (fun error s ↦ ExecutionError.Arises P error ∧ I s) :=
      Agree.modify fun s hs ↦ ⟨hs.1, h.facts s _ hs.2⟩
    refine hbind.bind fun _ ↦ honce.attempt_keeping.bind fun result ↦ ?_
    refine (hunbind result).bind fun _ ↦ ?_
    cases result with
    | ok value => exact ih.of_imp fun s hs ↦ hs.2
    | error error => exact Agree.throw fun s hs ↦ ⟨hs.1 error rfl, hs.2⟩

end Upheld

/-! ## Tasks -/

theorem Registry.find_of_has {registry : Registry} {name : String}
    (h : registry.has name = true) : ∃ kind, registry.find name = .ok kind := by
  obtain ⟨kind, hkind⟩ := Option.isSome_iff_exists.mp h
  exact ⟨kind, by rw [Registry.find, hkind]⟩

theorem Task.init_isPlain {kind : TaskKind} {invocation : Invocation} {environment : Environment}
    {error : TaskError} (h : Task.init kind ⟨some invocation, environment⟩ = .error error) :
    error.IsPlain := by
  have hread {α : Type} {decode : Config → Except DecodeError α} {error : TaskError}
      (h : TaskView.read ⟨some invocation, environment⟩ decode = .error error) : error.IsPlain := by
    rw [TaskView.read] at h
    dsimp only at h
    split at h
    · cases h
    · obtain rfl := Except.error.inj h
      exact trivial
  have hmap {α β : Type} {f : α → β} {result : Except TaskError α}
      (hresult : ∀ error, result = .error error → error.IsPlain)
      (h : result.map f = .error error) : error.IsPlain := by
    cases result with
    | ok value => cases h
    | error found =>
      obtain rfl := Except.error.inj h
      exact hresult found rfl
  cases kind
  case shell | template | «include» | echo | render | tryFile => exact hmap (fun _ ↦ hread) h
  case badInit =>
    obtain rfl := Except.error.inj h
    exact trivial
  all_goals cases h

theorem Task.outputOf_isPlain {outcome : Shell.Outcome} {error : TaskError}
    (h : Task.outputOf outcome = .error error) : error.IsPlain := by
  unfold Task.outputOf at h
  dsimp only at h
  split at h
  · obtain rfl := Except.error.inj h
    exact trivial
  · cases h
  · obtain rfl := Except.error.inj h
    exact trivial

theorem Task.kind_of_init {kind : TaskKind} {view : TaskView} {task : Task}
    (h : Task.init kind view = .ok task) : task.kind = kind := by
  have hmap {α : Type} {result : Except TaskError α} {f : α → Task}
      (hf : ∀ value, (f value).kind = kind) (h : result.map f = .ok task) : task.kind = kind := by
    cases result with
    | error error => cases h
    | ok value =>
      obtain rfl := Except.ok.inj h
      exact hf value
  cases kind
  case env | snapshot | cancel | cancelled | inert =>
    obtain rfl := Except.ok.inj h
    rfl
  case badInit => cases h
  all_goals exact hmap (fun _ ↦ rfl) h

/-- A task that changes no facts and runs no files. -/
def Task.IsLocal : Task → Prop
  | .setFact _ | .mergeFacts _ | .include _ | .tryFile _ => False
  | _ => True

theorem Task.run_eq_of_isLocal {task : Task} (h : task.IsLocal) (context : Context)
    (spans : List String) (f g : FilePath → Run) :
    task.run context spans f = task.run context spans g := by
  cases task
  case setFact | «include» | mergeFacts | tryFile => exact h.elim
  case shell told => cases told <;> rfl
  case template told => cases told <;> rfl
  all_goals rfl

namespace Steady

section

variable {ε : Type} {bad : ε → Session → Prop}

theorem changeFiles (h : Steady context G I)
    (change : FileSystem → Except FileError FileSystem) :
    Ensures I (Acting.changeFiles change) (fun _ ↦ I) (fun _ ↦ I) := by
  refine Agree.get_bind_of_pre fun s hs ↦ ?_
  cases change s.files with
  | ok files => exact Agree.set fun _ _ ↦ h.files s files hs
  | error fault => exact Agree.throw fun _ hs ↦ hs

/-- The text of a file may be asked for right after it was read. -/
theorem readTemplate (h : Steady context G I) (path : FilePath) :
    Ensures I (Acting.readFor .template path)
      (fun text s ↦ I (s.withCalls (text :: s.journal.calls))) (fun _ ↦ I) := by
  refine Agree.get_bind fun s hs ↦ ?_
  cases s.files.readText path with
  | ok text =>
    have hread : Ensures (ε := FileError) (· = s) (set (s.withRead ⟨.template, path, .ok text⟩))
        (fun _ s' ↦ I (s'.withCalls (text :: s'.journal.calls))) (fun _ ↦ I) :=
      Agree.set fun _ _ ↦ h.template s path text hs
    exact hread.bind fun _ ↦ Agree.pure fun s' hs' ↦ hs'
  | error fault =>
    have hread : Ensures (ε := FileError) (· = s) (set (s.withRead ⟨.template, path, .error fault⟩))
        (fun _ ↦ I) (fun _ ↦ I) := Agree.set fun _ _ ↦ h.unread s path fault hs
    exact hread.bind fun _ ↦ Agree.throw fun s' hs' ↦ hs'

theorem askTemplate (text : String) :
    Ensures (fun s ↦ I (s.withCalls (text :: s.journal.calls)))
      (Acting.resolving context (Resolving.text · text)) (fun _ ↦ I) (fun _ ↦ I) := by
  have hask : Acting.resolving context (Resolving.text · text) = Acting.ask context text :=
    (Asks.text text).resolving_eq
  rw [hask]
  refine Agree.get_bind fun s hs ↦ ?_
  have hcall : Ensures (ε := ResolveError) (· = s) (set (s.withCalls (text :: s.journal.calls)))
      (fun _ ↦ I) (fun _ ↦ I) := Agree.set fun _ _ ↦ hs
  refine hcall.bind fun _ ↦ ?_
  cases context.resolver text s.facts with
  | ok resolved => exact Agree.pure fun s' hs' ↦ hs'
  | error error => exact Agree.throw fun s' hs' ↦ hs'

end

/-- A failure of a step of a task is one of the task. -/
theorem becausePlain {ε α : Type} {pre : Session → Prop} {x : Acting ε α}
    {ok : α → Session → Prop} {wrap : ε → TaskError} (hplain : ∀ error, (wrap error).IsPlain)
    (hx : Ensures pre x ok (fun _ ↦ I)) :
    Ensures pre (Acting.because wrap x) ok (fun error s ↦ error.Arises P ∧ I s) :=
  Agree.because (hx.imp_bad fun error _ hs ↦ ⟨.plain (hplain error), hs⟩)

theorem runTemplate (h : Steady context G I) (spans : List String) (config : TemplateConfig) :
    Keeps I (·.Arises P) (Task.runTemplate context spans config) := by
  refine (becausePlain (fun _ ↦ by trivial) (h.readTemplate config.source)).bind fun text ↦ ?_
  refine (becausePlain (fun _ ↦ by trivial) (askTemplate text)).bind fun rendered ↦ ?_
  refine (becausePlain (fun _ ↦ by trivial) (h.changeFiles _)).bind fun _ ↦ ?_
  refine (becausePlain (fun _ ↦ by trivial) (h.changeFiles _)).bind fun _ ↦ ?_
  exact (h.log spans .info _).bind fun _ ↦ Agree.pure fun s hs ↦ hs

theorem execute (h : Steady context G I) (command shell : String) (directory : Option FilePath)
    (environment : Environment) :
    Keeps I (·.Arises P) (Task.execute context command shell directory environment) := by
  refine Agree.get_bind_of_pre fun s hs ↦ ?_
  split
  · exact Agree.throw fun _ hs ↦ ⟨.plain trivial, hs⟩
  · next outcome _ =>
    have hset : Keeps I (TaskError.Arises P) (set { s with files := outcome.files }) :=
      Agree.set fun _ _ ↦ h.files s _ hs
    refine hset.bind fun _ ↦ ?_
    cases houtput : Task.outputOf outcome with
    | ok output => exact Agree.pure fun _ hs ↦ hs
    | error error => exact Agree.throw fun _ hs ↦ ⟨.plain (Task.outputOf_isPlain houtput), hs⟩

theorem runShell (h : Steady context G I) (spans : List String) (config : ShellConfig)
    (environment : Environment) :
    Keeps I (·.Arises P) (Task.runShell context spans config environment) := by
  have hcommand : Keeps I (·.Arises P) (do
      Acting.log spans .debug "Executing shell command"
      let output ← Task.execute context config.command config.shell config.directory environment
      Acting.log spans .info "Shell command finished"
      return some (Json.str output)) := by
    refine (h.log spans .debug _).bind fun _ ↦ ?_
    refine (h.execute _ _ _ _).bind fun output ↦ ?_
    exact (h.log spans .info _).bind fun _ ↦ Agree.pure fun s hs ↦ hs
  refine Agree.get_bind_of_pre fun s _ ↦ ?_
  cases s.cancelled with
  | true => exact Agree.throw fun _ hs ↦ ⟨.plain trivial, hs⟩
  | false => exact hcommand

theorem runLocal (h : Steady context G I) (spans : List String) {f : FilePath → Run} {task : Task}
    (hlocal : task.IsLocal) (hrender : ∀ text, task = .render text → G text) :
    Keeps I (·.Arises P) (task.run context spans f) := by
  have hreturn (output : Option Json) : Keeps I (TaskError.Arises P) (pure output) :=
    Agree.pure fun _ hs ↦ hs
  have hthrow {error : TaskError} (hplain : error.IsPlain) :
      Keeps (α := Option Json) I (TaskError.Arises P) (throw error) :=
    Agree.throw fun _ hs ↦ ⟨.plain hplain, hs⟩
  cases task with
  | setFact | «include» | mergeFacts | tryFile => exact hlocal.elim
  | shell told =>
    cases told with
    | none => exact hthrow (by trivial)
    | some told => exact h.runShell spans told.1 told.2
  | template told =>
    cases told with
    | none => exact hthrow (by trivial)
    | some config => exact h.runTemplate spans config
  | echo message => exact hreturn message
  | env environment => exact hreturn _
  | fail config =>
    simp only [Task.run]
    split <;> exact hthrow (by trivial)
  | badInit => exact hreturn none
  | render text =>
    have hasked := h.resolving fun scope ↦
      Resolving.Gives.text scope (hrender text rfl)
    have hrendered : Ensures I (Acting.resolving context (Resolving.text · text)) (fun _ ↦ I)
        (fun _ ↦ I) := hasked.imp_ok fun _ _ hs ↦ hs.2
    exact (becausePlain (fun _ ↦ by trivial) hrendered).bind fun _ ↦ hreturn _
  | snapshot => exact Agree.get_bind_of_pre fun s _ ↦ hreturn _
  | cancel =>
    have hcancel : Keeps I (TaskError.Arises P) (modify (·.cancel)) := Agree.modify h.cancelled
    exact hcancel.bind fun _ ↦ hreturn none
  | cancelled => exact Agree.get_bind_of_pre fun s _ ↦ hreturn _
  | inert name => exact hreturn none

end Steady

namespace Upheld

theorem runFiles {f g : FilePath → Run}
    (hfile : ∀ path, AgreeKeeping I P (f path) (g path)) (files : List FilePath) :
    AgreeKeeping I (·.Arises P) (Task.runFiles f files) (Task.runFiles g files) := by
  induction files with
  | nil => exact Agree.pure fun s hs ↦ hs
  | cons file rest ih =>
    have hfirst : AgreeKeeping I (·.Arises P) (Acting.because (TaskError.include file) (f file))
        (Acting.because (TaskError.include file) (g file)) :=
      Agree.because ((hfile file).imp_bad fun _ _ hs ↦ ⟨.include hs.1, hs.2⟩)
    exact hfirst.bind fun _ ↦ ih

/-- Tasks agree whose files agree. -/
theorem run (h : Upheld context G I) (spans : List String) {f g : FilePath → Run}
    (hfile : ∀ path, AgreeKeeping I P (f path) (g path))
    {task : Task} (hrender : ∀ text, task = .render text → G text) :
    AgreeKeeping I (·.Arises P) (task.run context spans f) (task.run context spans g) := by
  have hmodify {change : Session → Session} (hkeeps : ∀ s, I s → I (change s)) :
      Keeps I (TaskError.Arises P) (modify change) := Agree.modify hkeeps
  have hreturn (output : Option Json) : Keeps I (TaskError.Arises P) (pure output) :=
    Agree.pure fun _ hs ↦ hs
  by_cases hlocal : task.IsLocal
  · rw [Task.run_eq_of_isLocal hlocal context spans f g]
    exact h.runLocal spans hlocal hrender
  · cases task with
    | setFact config =>
      refine (h.log spans .debug _).bind fun _ ↦ ?_
      exact (hmodify fun s hs ↦ h.facts s _ hs).bind fun _ ↦ hreturn none
    | «include» files => exact (runFiles hfile files).bind fun _ ↦ hreturn none
    | mergeFacts config => exact (hmodify fun s hs ↦ h.facts s _ hs).bind fun _ ↦ hreturn none
    | tryFile path =>
      exact (hfile path).attempt_keeping.bind fun _ ↦ (hreturn _).of_imp fun _ hs ↦ hs.2
    | _ => exact (hlocal trivial).elim

/-! ## Elements -/

theorem runTask (h : Upheld context G I) (spans : List String) {f g : RunFile}
    (hfile : ∀ path, AgreeKeeping I P (f spans path) (g spans path))
    (element : Element) (kind : String) {task : Task}
    (hrender : ∀ text, task = .render text → G text) :
    AgreeKeeping I (·.Arises P) (Engine.runTask context f spans element kind task)
      (Engine.runTask context g spans element kind task) := by
  have hrun := h.run spans hfile hrender
  refine (h.note _).bind fun _ ↦ hrun.attempt_keeping.bind fun result ↦ ?_
  cases result with
  | ok output => exact Agree.pure fun s hs ↦ hs.2
  | error error =>
    dsimp only
    cases element.ignoreErrors with
    | true =>
      refine ((h.log spans .warn _).of_imp fun _ hs ↦ hs.2).bind fun _ ↦ ?_
      exact Agree.pure fun s hs ↦ hs
    | false => exact Agree.throw fun s hs ↦ ⟨.task (hs.1 error rfl), hs.2⟩

theorem store (h : Upheld context G I) (spans : List String) (element : Element)
    (output : Option Json) {bad : ExecutionError → Session → Prop} :
    Ensures I (Engine.store spans element output) (fun _ ↦ I) bad := by
  unfold Engine.store
  split
  · have hset (name : String) (value : Json) :
        Ensures (ε := ExecutionError) I (modify (·.setFact name value)) (fun _ ↦ I) bad :=
      Agree.modify fun s hs ↦ h.facts s _ hs
    exact (h.log spans .debug _).bind fun _ ↦ hset _ _
  · exact Agree.pure fun s hs ↦ hs

/-- A known task fails only where it is told its configuration and where it runs. -/
theorem dispatch (h : Upheld context G I) (spans : List String) {f g : RunFile}
    (hfile : ∀ path, AgreeKeeping I P (f spans path) (g spans path))
    {element : Element} {kind : String} (htask : element.task.map (·.kind) = some kind)
    (hkind : context.registry.has kind = true) (environment : Environment) :
    AgreeKeeping I (·.Arises P) (Engine.dispatch context f spans element environment)
      (Engine.dispatch context g spans element environment) := by
  obtain ⟨invocation, hinvocation, rfl⟩ := Option.map_eq_some_iff.mp htask
  obtain ⟨found, hfind⟩ := Registry.find_of_has hkind
  unfold Engine.dispatch
  rw [hinvocation]
  dsimp only
  rw [hfind]
  refine (h.log spans .info _).bind fun _ ↦ (h.note _).bind fun _ ↦ ?_
  cases hinit : Task.init found ⟨some invocation, environment⟩ with
  | error error => exact Agree.throw fun s hs ↦ ⟨.task (.init (Task.init_isPlain hinit)), hs⟩
  | ok task =>
    have hrender : ∀ text, task = .render text → G text := by
      rintro text rfl
      have hrenders : found = .render := (Task.kind_of_init hinit).symm
      exact h.rendered ⟨invocation.kind, hrenders ▸ hfind⟩ text
    exact (h.runTask spans hfile element invocation.kind hrender).bind fun output ↦
      h.store spans element output

/-- An element of a sound tree is run once alike, when its children are run alike. -/
theorem runOnce (h : Upheld context G I) {tree : Tree} (hG : ∀ text ∈ tree.leaves, G text)
    {slot : Slot} {element : Element} (hget : tree.get? slot = some element)
    (hsound : element.Sound context.registry) (spans : List String) {f g : RunFile}
    (hfile : ∀ path, AgreeKeeping I P (f spans path) (g spans path))
    {child other : Slot → Run}
    (hchild : ∀ slot ∈ element.block, AgreeKeeping I (·.Arises P) (child slot) (other slot)) :
    AgreeKeeping I (·.Arises P) (Engine.runOnce context f tree child spans slot element)
      (Engine.runOnce context g tree other spans slot element) := by
  have hsnapshot : Ensures I (Acting.because ExecutionError.resolve
        (Acting.resolving context (snapshot tree slot element)))
      (fun found s ↦ element.SameShape found.1 ∧ I s) (fun error s ↦ error.Arises P ∧ I s) := by
    apply Agree.because
    have hasked := h.resolving fun scope ↦
      Engine.snapshot_gives scope hG slot fun _ hmem ↦ hG _ (Tree.mem_leaves hget hmem)
    exact hasked.imp_bad fun _ _ hs ↦ ⟨.resolve, hs⟩
  refine hsnapshot.bind fun found ↦ Agree.of_fact fun hshape ↦ ?_
  obtain ⟨resolved, environment⟩ := found
  have hblock : resolved.block = element.block := hshape.block
  cases hisBlock : resolved.isBlock with
  | true =>
    simp only [hisBlock, if_true, hblock]
    exact runAll hchild
  | false =>
    simp only [hisBlock, Bool.false_eq_true, if_false]
    have hempty : element.block = [] := by
      simpa [Element.isBlock, hblock] using hisBlock
    have hcontent := hsound.content
    rw [if_pos hempty] at hcontent
    obtain ⟨invocation, htask⟩ := Option.ne_none_iff_exists'.mp hcontent
    have hkind : resolved.task.map (·.kind) = some invocation.kind := by
      rw [hshape.task, htask, Option.map_some]
    exact h.dispatch spans hfile hkind (hsound.task invocation htask) environment

end Upheld

end Playbook
