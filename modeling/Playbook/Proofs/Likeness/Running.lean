import Playbook.Proofs.Likeness.Basic
import Playbook.Proofs.Rewriting

/-!
# Elements and files that go alike

Tasks, elements and files go alike when the files that tasks run do. Outlines go alike when they do
so wherever they may stand; this is kept by putting them one after another and by putting them into
an element, so a difference deep inside a playbook counts no more than by itself.
-/

namespace Playbook

open Engine

/-! ## Tasks -/

namespace Task

variable {c : Likeness} {here there : Nat} {context : Context}

theorem execute_alike (command shell : String) (directory : Option FilePath)
    (environment : Environment) :
    Alike c here there (execute context command shell directory environment)
      (execute context command shell directory environment) := by
  let started (s : Session) : Except Shell.StartFault Shell.Outcome :=
    Shell.start s.files shell command directory
      (context.environment.insertMany environment.entries)
  let outcome (s : Session) : Except TaskError String :=
    (started s).mapError (fun fault ↦
      .process ("Failed to spawn process: " ++ fault.message)) >>= outputOf
  let change (s : Session) : Session :=
    { s with files := ((started s).map (·.files)).toOption.getD s.files }
  have hrun (s : Session) : (execute context command shell directory environment).run s =
      (outcome s, change s) := by
    have hget : (get : Acting TaskError Session).run s = (.ok s, s) := rfl
    rw [execute, run_bind_of_ok hget]
    simp only [outcome, change, started]
    cases Shell.start s.files shell command directory
        (context.environment.insertMany environment.entries) with
    | error fault => rfl
    | ok ended =>
      dsimp only
      change _ = (outputOf ended, { s with files := ended.files })
      cases outputOf ended <;> rfl
  refine Alike.step hrun hrun (fun s t h ↦ ?_) fun _ ↦ rfl
  have hstarted : started s = started t := by simp only [started, h.files]
  simp only [outcome, change, hstarted, h.files]
  exact ⟨trivial, h.facts, h.cancelled, rfl, h.depth_left, h.depth_right, h.journal⟩

theorem runShell_alike (spans spans' : List String) (config : ShellConfig)
    (environment : Environment) :
    Alike c here there (runShell context spans config environment)
      (runShell context spans' config environment) := by
  refine Alike.look fun s t _ hcancelled _ ↦ ?_
  rw [hcancelled]
  cases t.cancelled with
  | true => exact Alike.throw _
  | false =>
    refine (Alike.log spans spans' .debug _).bind fun _ ↦ ?_
    refine (execute_alike _ _ _ _).bind fun output ↦ ?_
    exact (Alike.log spans spans' .info _).bind fun _ ↦ Alike.pure _

theorem runTemplate_alike (spans spans' : List String) (config : TemplateConfig) :
    Alike c here there (runTemplate context spans config) (runTemplate context spans' config) := by
  refine ((Alike.readFor .template config.source).because _).bind fun text ↦ ?_
  refine ((Alike.resolvingText text).because _).bind fun rendered ↦ ?_
  refine ((Alike.changeFiles _).because _).bind fun _ ↦ ?_
  refine ((Alike.changeFiles _).because _).bind fun _ ↦ ?_
  exact (Alike.log spans spans' .info _).bind fun _ ↦ Alike.pure _

theorem runFiles_alike {file file' : FilePath → Run}
    (hfile : ∀ path, Alike c here there (file path) (file' path)) (paths : List FilePath) :
    Alike c here there (runFiles file paths) (runFiles file' paths) := by
  induction paths with
  | nil => exact Alike.pure ()
  | cons path rest ih => exact ((hfile path).because _).bind fun _ ↦ ih

theorem run_alike {file file' : FilePath → Run}
    (hfile : ∀ path, Alike c here there (file path) (file' path)) (spans spans' : List String)
    (task : Task) :
    Alike c here there (task.run context spans file) (task.run context spans' file') := by
  cases task with
  | shell told =>
    cases told with
    | none => exact Alike.throw _
    | some told => exact runShell_alike spans spans' told.1 told.2
  | template told =>
    cases told with
    | none => exact Alike.throw _
    | some config => exact runTemplate_alike spans spans' config
  | setFact config =>
    exact (Alike.log spans spans' .debug _).bind fun _ ↦
      (Alike.changeFacts (Facts.merge · config)).bind fun _ ↦ Alike.pure none
  | «include» paths => exact (runFiles_alike hfile paths).bind fun _ ↦ Alike.pure none
  | mergeFacts config =>
    exact (Alike.changeFacts (Facts.merge · config)).bind fun _ ↦ Alike.pure none
  | fail config =>
    rw [run, run]
    split <;> exact Alike.throw _
  | render text =>
    exact ((Alike.resolvingText text).because _).bind fun rendered ↦ Alike.pure _
  | snapshot => exact Alike.look fun s t hfacts _ _ ↦ hfacts ▸ Alike.pure _
  | cancel => exact Alike.cancel.bind fun _ ↦ Alike.pure none
  | cancelled => exact Alike.look fun s t _ hcancelled _ ↦ hcancelled ▸ Alike.pure _
  | tryFile path => exact (hfile path).attempt.bind fun result ↦ Alike.pure _
  | echo _ | env _ | badInit | inert _ => exact Alike.pure _

end Task

/-! ## Elements -/

namespace Interpreter

variable {c : Likeness} {here there : Nat} {context : Context}

theorem passes_alike (spans spans' guards : List String) :
    Alike c here there (passes context spans guards) (passes context spans' guards) := by
  induction guards with
  | nil => exact Alike.pure true
  | cons guard rest ih =>
    refine (Alike.ask guard).attempt.bind fun result ↦ ?_
    cases result with
    | error error => exact (Alike.log spans spans' .warn _).bind fun _ ↦ Alike.pure false
    | ok answer =>
      dsimp only
      split
      · exact Alike.pure false
      · exact ih

theorem items_alike (loop : LoopSpec) :
    Alike c here there (items context loop) (items context loop) := by
  refine ((Alike.loop loop).because _).bind fun resolved ↦ ?_
  cases resolved with
  | items values => exact Alike.pure values
  | var rendered =>
    dsimp only
    cases Json.parseList rendered with
    | ok values => exact Alike.pure values
    | error reason => exact Alike.throw _

theorem forEach_alike {run run' : Run} (h : Alike c here there run run') (values : List Json) :
    Alike c here there (forEach run values) (forEach run' values) := by
  induction values with
  | nil => exact Alike.pure ()
  | cons item rest ih =>
    refine (Alike.changeFacts (·.insert "item" item)).bind fun _ ↦ h.attempt.bind fun result ↦ ?_
    refine (Alike.changeFacts (·.erase "item")).bind fun _ ↦ ?_
    cases result with
    | error error => exact Alike.throw error
    | ok _ => exact ih

/-- A task that is given the same variables goes alike. -/
theorem perform_alike {file file' : RunFile}
    (hfile : ∀ spans spans' path, Alike c here there (file spans path) (file' spans' path))
    (spans spans' : List String) (heading : Heading) (environment : Environment) :
    Alike c here there (perform context file spans heading environment)
      (perform context file' spans' heading environment) := by
  unfold perform
  cases heading.task with
  | none => exact Alike.throw _
  | some invocation =>
    dsimp only
    cases context.registry.find invocation.kind with
    | error error => exact Alike.throw _
    | ok kind =>
      refine (Alike.log spans spans' .info _).bind fun _ ↦ (Alike.note _).bind fun _ ↦ ?_
      cases Task.init kind ⟨some invocation, environment⟩ with
      | error error => exact Alike.throw _
      | ok task =>
        refine (Alike.note _).bind fun _ ↦ ?_
        refine (Task.run_alike (hfile spans spans') spans spans' task).attempt.bind fun result ↦ ?_
        cases result with
        | error error =>
          cases heading.ignoreErrors with
          | true => exact Alike.log spans spans' .warn _
          | false => exact Alike.throw _
        | ok output =>
          cases output with
          | none => exact Alike.pure ()
          | some output =>
            cases heading.register with
            | none => exact Alike.pure ()
            | some name =>
              exact (Alike.log spans spans' .debug _).bind fun _ ↦
                Alike.changeFacts (·.insert name output)

variable {outer outer' : List Environment} {inside inside' : Option Run}

theorem single_alike {file file' : RunFile}
    (hfile : ∀ spans spans' path, Alike c here there (file spans path) (file' spans' path))
    (houter : ∀ inherited, Alike c here there (inherit context inherited outer)
      (inherit context inherited outer'))
    (hinside : Option.Rel (Alike c here there) inside inside') (spans spans' : List String)
    (heading : Heading) :
    Alike c here there (single context file spans outer heading inside)
      (single context file' spans' outer' heading inside') := by
  refine ((Alike.heading heading).because _).bind fun resolved ↦ ?_
  cases hinside with
  | some hrun => exact hrun
  | none => exact ((houter ∅).because _).bind fun inherited ↦ perform_alike hfile _ _ _ _

theorem element_alike {file file' : RunFile} {spans spans' : List String}
    {heading heading' : Heading} (hguards : heading'.guards = heading.guards)
    (hloop : heading'.loop = heading.loop)
    (hsingle : Alike c here there (single context file spans outer heading inside)
      (single context file' spans' outer' heading' inside')) :
    Alike c here there (element context file spans outer heading inside)
      (element context file' spans' outer' heading' inside') := by
  unfold element
  rw [hguards, hloop]
  refine (passes_alike spans spans' heading.guards).bind fun passed ↦ ?_
  cases passed with
  | false => exact Alike.log spans spans' .debug _
  | true =>
    simp only [if_true]
    cases heading.loop with
    | none => exact hsingle
    | some loop =>
      refine (items_alike loop).bind fun values ↦ ?_
      exact (Alike.log spans spans' .debug _).bind fun _ ↦ forEach_alike hsingle values

theorem inherit_append (inherited : Environment) (outer inner : List Environment) :
    inherit context inherited (outer ++ inner) =
      inherit context inherited outer >>= fun found ↦ inherit context found inner := by
  induction outer generalizing inherited with
  | nil => exact (pure_bind _ _).symm
  | cons own rest ih =>
    rw [List.cons_append, inherit, inherit, bind_assoc]
    exact bind_congr fun _ ↦ ih _

end Interpreter

/-! ## Outlines -/

open Interpreter

/-- Outlines that go alike wherever they stand, and of which there are none on both sides or on
neither. -/
structure OutlinesAlike (context : Context) (c : Likeness) (here there : Nat)
    (first second : List Outline) : Prop where
  nil : first = [] ↔ second = []
  alike : ∀ {file file' : RunFile},
    (∀ spans spans' path, Alike c here there (file spans path) (file' spans' path)) →
    ∀ {outer outer' : List Environment}, (∀ inherited, Alike c here there
      (inherit context inherited outer) (inherit context inherited outer')) →
    ∀ spans spans', Alike c here there (interpretAll context file spans outer first)
      (interpretAll context file' spans' outer' second)

namespace OutlinesAlike

variable {context : Context} {c : Likeness} {here there : Nat}
  {first first' second second' : List Outline}

theorem empty : OutlinesAlike context c here there [] [] :=
  ⟨Iff.rfl, fun _ _ _ _ _ _ ↦ Alike.pure ()⟩

theorem append (h : OutlinesAlike context c here there first second)
    (h' : OutlinesAlike context c here there first' second') :
    OutlinesAlike context c here there (first ++ first') (second ++ second') := by
  refine ⟨?_, fun hfile _ _ houter spans spans' ↦ ?_⟩
  · rw [List.append_eq_nil_iff, List.append_eq_nil_iff, h.nil, h'.nil]
  · rw [interpretAll_append, interpretAll_append]
    exact (h.alike hfile houter spans spans').bind fun _ ↦ h'.alike hfile houter spans spans'

/-- An element goes alike when only what is inside it differs, and goes alike there. -/
theorem element (h : OutlinesAlike context c here there first second) (heading : Heading)
    (replaced replaced' : List Outline) :
    OutlinesAlike context c here there [.element heading replaced first]
      [.element heading replaced' second] := by
  refine ⟨iff_of_false (List.cons_ne_nil _ _) (List.cons_ne_nil _ _),
    fun {file file'} hfile {outer outer'} houter spans spans' ↦ ?_⟩
  have houter' : ∀ inherited, Alike c here there
      (inherit context inherited (outer ++ [heading.environment]))
      (inherit context inherited (outer' ++ [heading.environment])) := by
    intro inherited
    rw [inherit_append, inherit_append]
    exact (houter inherited).bind fun found ↦ Alike.inherit found _
  have hinside (spans spans' : List String) : Option.Rel (Alike c here there)
      (if first.isEmpty then none
        else some (interpretAll context file spans (outer ++ [heading.environment]) first))
      (if second.isEmpty then none
        else some
          (interpretAll context file' spans' (outer' ++ [heading.environment]) second)) := by
    have hempty : first.isEmpty = second.isEmpty := by
      rw [Bool.eq_iff_iff, List.isEmpty_iff, List.isEmpty_iff, h.nil]
    rw [hempty]
    split
    · exact .none
    · exact .some (h.alike hfile houter' spans spans')
  have hsingle := single_alike hfile houter
    (hinside (spans ++ [heading.displayName]) (spans' ++ [heading.displayName]))
    (spans ++ [heading.displayName]) (spans' ++ [heading.displayName]) heading
  rw [interpretAll, interpretAll]
  exact (element_alike rfl rfl hsingle).bind fun _ ↦ Alike.pure ()

mutual

theorem refl_single : (outline : Outline) →
    OutlinesAlike context c here there [outline] [outline]
  | .element heading replaced children => (refl children).element heading replaced replaced

theorem refl : (outlines : List Outline) → OutlinesAlike context c here there outlines outlines
  | [] => empty
  | outline :: rest => (refl_single outline).append (refl rest)

end

theorem congruence (context : Context) (c : Likeness) (here there : Nat) :
    Outline.Congruence (OutlinesAlike context c here there) :=
  ⟨refl, append, fun heading replaced replaced' h ↦ h.element heading replaced replaced',
    OutlinesAlike.nil⟩

end OutlinesAlike

/-! ## Files -/

variable {context : Context} {c : Likeness} {here there : Nat}

theorem Alike.load (path : FilePath) :
    Alike c here there (Interpreter.load context path) (Interpreter.load context path) := by
  refine ((Alike.readFor .playbook path).because _).bind fun text ↦ ?_
  cases Outline.ofText context.registry text with
  | ok outlines => exact Alike.pure outlines
  | error error => exact Alike.throw error

/-- Runs something with one more file open. -/
def Engine.enclose (inside : Run) : Run := do
  modify fun s ↦ { s with depth := s.depth + 1 }
  let result ← Acting.attempt inside
  modify fun s ↦ { s with depth := s.depth - 1 }
  match result with
  | .ok () => return ()
  | .error error => throw error

/-- Apart from the number of open files, what is enclosed runs as it does by itself. -/
theorem Engine.enclose_run (inside : Run) (s : Session) : (enclose inside).run s =
    ((inside.run { s with depth := s.depth + 1 }).1,
      { (inside.run { s with depth := s.depth + 1 }).2 with
        depth := (inside.run { s with depth := s.depth + 1 }).2.depth - 1 }) := by
  have hopen : (modify fun s ↦ { s with depth := s.depth + 1 } : Run).run s =
      (.ok (), { s with depth := s.depth + 1 }) := rfl
  rw [enclose, run_bind_of_ok hopen, run_bind_of_ok (attempt_run inside _)]
  cases (inside.run { s with depth := s.depth + 1 }).1 <;> rfl

/-- What goes alike with one more file open goes alike when that is closed again. -/
theorem Alike.enclose {x y : Run} (h : Alike c (here + 1) (there + 1) x y) :
    Alike c here there (enclose x) (enclose y) := by
  constructor
  · intro s t hst
    rw [enclose_run, enclose_run]
    have hopen : c.Like (here + 1) (there + 1) { s with depth := s.depth + 1 }
        { t with depth := t.depth + 1 } :=
      ⟨hst.facts, hst.cancelled, hst.files, congrArg (· + 1) hst.depth_left,
        congrArg (· + 1) hst.depth_right, hst.journal⟩
    rcases h.ends _ _ hopen with ⟨hstrays, hdepth⟩ | ⟨hresult, hlike⟩
    · exact .inl ⟨hstrays, Nat.lt_sub_of_add_lt hdepth⟩
    · refine .inr ⟨hresult, hlike.facts, hlike.cancelled, hlike.files, ?_, ?_, hlike.journal⟩
      · exact congrArg (· - 1) hlike.depth_left
      · exact congrArg (· - 1) hlike.depth_right
  · intro s
    rw [enclose_run]
    exact Nat.le_sub_of_add_le (h.keeps { s with depth := s.depth + 1 })

/-- A file is run alike when every document in it is. -/
theorem withFile_alike {inside inside' : Tree → Run}
    (h : ∀ outlines, Alike c (here + 1) (there + 1) (inside (Outline.tree outlines))
      (inside' (Outline.tree outlines))) (spans spans' : List String) (path : FilePath) :
    Alike c here there (withFile context spans path inside)
      (withFile context spans' path inside') := by
  refine (Alike.log spans spans' .info _).bind fun _ ↦ ?_
  simp only [loadTree_eq, because_bind, bind_assoc]
  refine ((Alike.load _).because _).bind fun outlines ↦ ?_
  exact (Alike.log spans spans' .debug _).bind fun _ ↦ (h outlines).enclose

/-- Files are run alike when as many files are open on both sides. -/
theorem runFileWithin_alike (remaining : Nat) : ∀ (opened : Nat) (spans spans' : List String)
    (path : FilePath), Alike c opened opened (runFileWithin context remaining spans path)
      (runFileWithin context remaining spans' path) := by
  induction remaining with
  | zero => exact fun _ _ _ _ ↦ Alike.throw _
  | succ remaining ih =>
    intro opened spans spans' path
    let tree (spans : List String) := runTree context (runFileWithin context remaining) spans
    have hfile (opened : Nat) :
        Alike c opened opened (withFile context spans path (tree spans))
          (withFile context spans' path (tree spans')) := by
      refine withFile_alike (fun outlines ↦ ?_) spans spans' path
      simp only [tree, runTree_eq]
      exact (OutlinesAlike.refl outlines).alike (ih (opened + 1))
        (fun inherited ↦ Alike.inherit inherited []) spans spans'
    let entered (spans : List String) (opened : Nat) : Run :=
      if opened ≥ context.settings.includeLimit then
        throw (.includeDepth context.settings.includeLimit)
      else withFile context spans path (tree spans)
    have hentered (opened : Nat) :
        Alike c opened opened (entered spans opened) (entered spans' opened) := by
      dsimp only [entered]
      split
      · exact Alike.throw _
      · exact hfile opened
    rw [runFileWithin_succ, runFileWithin_succ]
    exact Alike.lookDepth (f := entered spans) (g := entered spans') (hentered opened)
      fun opened ↦ (hentered opened).keeps

/-! ## Documents -/

open Yaml (Node)

theorem OutlinesAlike.run {opened : Nat} {first second : List Outline}
    (h : OutlinesAlike context c opened opened first second) :
    Alike c opened opened (interpretAll context (runFile context) [] [] first)
      (interpretAll context (runFile context) [] [] second) :=
  h.alike (runFileWithin_alike _ opened) (fun inherited ↦ Alike.inherit inherited []) [] []

/-- A rewritten document can be read and runs alike if this is so for what was exchanged. -/
theorem Rewrites.executeNode_alike {step : List Node → List Node → Prop}
    (hstep : ∀ opened part part' outlines, step part part' →
      Outline.readItems context.registry [] 0 part = .ok outlines →
      ∃ outlines', Outline.readItems context.registry [] 0 part' = .ok outlines' ∧
        OutlinesAlike context c opened opened outlines outlines')
    {nodes nodes' : List Node} (h : Rewrites step nodes nodes')
    (hread : ∃ tree, Document.ofNode context.registry (.seq nodes) = .ok tree) :
    (∃ tree, Document.ofNode context.registry (.seq nodes') = .ok tree) ∧
      ∀ opened, Alike c opened opened (executeNode context (.seq nodes))
        (executeNode context (.seq nodes')) := by
  rw [ofNode_seq] at hread ⊢
  obtain ⟨_, hread⟩ := hread
  obtain ⟨outlines, hread, -⟩ := Outline.map_eq_ok.mp hread
  have hexchanged (opened : Nat) := h.readItems (OutlinesAlike.congruence context c opened opened)
    (hstep opened) outlines hread
  constructor
  · obtain ⟨outlines', hread', -⟩ := hexchanged 0
    exact ⟨_, Outline.map_eq_ok.mpr ⟨outlines', hread', rfl⟩⟩
  · intro opened
    obtain ⟨outlines', hread', halike⟩ := hexchanged opened
    rw [executeNode_of_ok hread, executeNode_of_ok hread']
    exact halike.run

end Playbook
