import Playbook.Proofs.Inclusion.Refusal

/-!
# An include by itself

An element that includes one file asks for the name of the file, is made a task and runs the file.
An error in the file arrives wrapped. If no file is refused, what it does otherwise is what the
elements of the file do.
-/

namespace Playbook

open Engine Interpreter
open Yaml (Node)

variable {context : Context}

/-- An element that includes one file and says nothing else. -/
def includeNode (file : String) : Node :=
  .map [(.str "include", .map [(.str "files", .seq [.str file])])]

/-- The configuration of an include of one file. -/
def includeConfig (file : String) : Config :=
  [("files", .arr [.str file])]

def Heading.including (file : String) : Heading :=
  { Heading.blank with task := some ⟨"include", includeConfig file⟩ }

/-- The journal once an include is about to run its file. -/
def Journal.including (journal : Journal) (file : String) : Journal where
  calls := file :: journal.calls
  events := .run .include :: .init .include (includeConfig file) ∅ :: journal.events
  log := ⟨.info, "Running task include", ["include"]⟩ :: journal.log
  reads := journal.reads

def Session.including (s : Session) (file : String) : Session :=
  { s with journal := s.journal.including file }

theorem readItems_includeNode {registry : Registry} (h : registry.find "include" = .ok .include)
    (file : String) : Outline.readItems registry [] 0 [includeNode file] =
      .ok [.element (.including file) [] []] := by
  have hhas : registry.has "include" = true := by
    rw [Registry.find] at h
    rw [Registry.has, SortedMap.contains]
    cases hkind : registry.kinds.get? "include" with
    | some kind => rfl
    | none =>
      rw [hkind] at h
      cases h
  have hkey : Document.keyText (Location.item [] 0) (.str "include") = .ok "include" := rfl
  have hkind : ControlField.ofKey? "include" = none := rfl
  simp only [includeNode, Outline.readItems, Outline.read, Outline.readEntries, Outline.readEntry,
    hkey, hkind, hhas]
  rfl

theorem ask_including {file : String} {s : Session}
    (h : context.resolver file s.facts = .ok file) :
    (Heading.ask context (.including file)).run s =
      (.ok (.including file), s.withCalls (file :: s.journal.calls)) := by
  have hask : (Acting.ask context file).run s =
      (.ok file, s.withCalls (file :: s.journal.calls)) := by
    rw [ask_run, h]
  have hown : Environment.ask context ∅ = pure [] := rfl
  have hheading : Heading.ask context (.including file) = (do
      let resolved ← Acting.ask context file
      return .including resolved) := by
    simp only [Heading.ask, Heading.including, Heading.blank, Option.mapM_none, List.mapM_nil,
      pure_bind, Option.mapM_some, hown, Invocation.ask, includeConfig, Json.askFields, Json.ask,
      Json.askItems, bind_assoc, map_eq_pure_bind]
    rfl
  rw [hheading, run_bind_of_ok hask]
  rfl

theorem Task.run_include (context : Context) (file : FilePath → Run) (spans : List String)
    (path : FilePath) (s : Session) : (Task.run context spans file (.include [path])).run s =
      ((((file path).run s).1.mapError (TaskError.include path)).map fun _ ↦ none,
        ((file path).run s).2) := by
  have hfile : (Acting.because (TaskError.include path) (file path)).run s =
      (((file path).run s).1.mapError (TaskError.include path), ((file path).run s).2) :=
    because_run _ _ s
  rw [Task.run, Task.runFiles]
  rcases hrun : (file path).run s with ⟨result, t⟩
  rw [hrun] at hfile
  cases result with
  | error error =>
    rw [run_bind_of_error (run_bind_of_error hfile)]
    rfl
  | ok _ =>
    rw [run_bind_of_ok ((run_bind_of_ok hfile).trans rfl)]
    rfl

/-- An error in an included file as it arrives outside. -/
def ExecutionError.included (file : String) (error : ExecutionError) : ExecutionError :=
  .task "include" (.include file error)

/-- An include runs its file and wraps the error. -/
theorem interpretAll_including (hregistered : context.registry.find "include" = .ok .include)
    (runFile : RunFile) {file : String} {s : Session}
    (h : context.resolver file s.facts = .ok file) :
    (interpretAll context runFile [] [] [.element (.including file) [] []]).run s =
      (((runFile ["include"] file).run (s.including file)).1.mapError (.included file),
        ((runFile ["include"] file).run (s.including file)).2) := by
  have hresolved : (Acting.because ExecutionError.resolve
      (Heading.ask context (.including file))).run s =
      (.ok (.including file), s.withCalls (file :: s.journal.calls)) := by
    rw [because_run, ask_including h]
    rfl
  have hall : interpretAll context runFile [] [] [.element (.including file) [] []] =
      single context runFile ["include"] [] (.including file) none >>= fun _ ↦ pure () := rfl
  have hsingle : (single context runFile ["include"] [] (.including file) none).run s =
      (perform context runFile ["include"] (.including file) ∅).run
        (s.withCalls (file :: s.journal.calls)) := by
    rw [single, run_bind_of_ok hresolved]
    rfl
  have hinit : Task.init .include ⟨some ⟨"include", includeConfig file⟩, ∅⟩ =
      .ok (.include [file]) := rfl
  have hattempt : (Acting.attempt
      (Task.run context ["include"] (runFile ["include"]) (.include [file])) :
        Acting ExecutionError _).run (s.including file) = _ := attempt_run _ _
  rw [Task.run_include] at hattempt
  rw [hall, bind_pure, hsingle, perform]
  simp only [Heading.including, hregistered, hinit]
  -- One line of the log and the two steps of the task come before its file.
  refine (run_bind_of_ok rfl).trans ?_
  refine (run_bind_of_ok rfl).trans ?_
  refine (run_bind_of_ok rfl).trans ?_
  refine (run_bind_of_ok hattempt).trans ?_
  cases ((runFile ["include"] file).run (s.including file)).1 <;> rfl

/-- An include does what the elements of its file do and wraps the error, unless a file is refused
inside. -/
theorem interpretAll_inlined (hregistered : context.registry.find "include" = .ok .include)
    {c : Likeness} {opened : Nat} {s t : Session} (hst : c.Like opened opened s t) {file : String}
    (hfile : context.resolver file t.facts = .ok file) {text : String}
    (hread : t.files.readText (context.settings.locate file) = .ok text)
    {outlines : List Outline}
    (hparse : Document.ofText context.registry text = .ok (Outline.tree outlines))
    {result : Except ExecutionError Unit} {s' : Session}
    (hrun : (interpretAll context (markedFile context) [] []
      [.element (.including file) [] []]).run s = (result, s'))
    {other : Except ExecutionError Unit} {t' : Session}
    (hother : (interpretAll context (runFile context) [] [] outlines).run t = (other, t')) :
    opened < s'.depth ∨ result = other.mapError (.included file) ∧
      (Likeness.since
        ((s.journal.including file).opening ["include"]
          ⟨.playbook, context.settings.locate file, .ok text⟩)
        t.journal).Like opened opened s' t' := by
  rw [← hst.facts] at hfile
  rw [← hst.files] at hread
  have hopened : s.depth = opened := hst.depth_left
  rw [interpretAll_including hregistered _ hfile] at hrun
  rcases Nat.lt_or_ge s.depth context.settings.includeLimit with hroom | hfull
  · let reading : Reading := ⟨.playbook, context.settings.locate file, .ok text⟩
    let entered : Session := { (s.including file).opening ["include"] reading with
      depth := s.depth + 1 }
    have hroom' : (s.including file).depth < context.settings.includeLimit := hroom
    have hread' : (s.including file).files.readText (context.settings.locate file) = .ok text :=
      hread
    rw [markedFile, runFileOr_open hroom' hread' hparse, enclose_run] at hrun
    have hentered : (Likeness.since entered.journal t.journal).Like (opened + 1) opened
        entered t :=
      ⟨hst.facts, hst.cancelled, hst.files, congrArg (· + 1) hopened, hst.depth_right,
        ⟨⟨[], [], [], []⟩, rfl, rfl⟩⟩
    have hmay : (Likeness.since entered.journal t.journal).strays := trivial
    -- The elements have one more file open here than there.
    have hinside := interpretAll_marked context hmay context.settings.includeLimit
      (Nat.le_succ opened) ["include"] [] outlines
    have hends := hinside.ends entered t hentered
    rw [hother] at hends
    obtain ⟨rfl, rfl⟩ := Prod.mk.inj hrun
    rcases hends with ⟨-, hdepth⟩ | ⟨hresult, hlike⟩
    · exact .inl (Nat.lt_sub_of_add_lt hdepth)
    · refine .inr ⟨congrArg _ hresult, hlike.facts, hlike.cancelled, hlike.files, ?_,
        hlike.depth_right, hlike.journal⟩
      exact congrArg (· - 1) hlike.depth_left
  · have hfull' : context.settings.includeLimit ≤ (s.including file).depth := hfull
    rw [markedFile, runFileOr_full hfull', mark_run] at hrun
    obtain ⟨-, rfl⟩ := Prod.mk.inj hrun
    exact .inl (Nat.lt_succ_of_le (Nat.le_of_eq hopened.symm))

end Playbook
