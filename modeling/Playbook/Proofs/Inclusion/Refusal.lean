import Playbook.Proofs.Likeness.Running
import Playbook.Proofs.PlainBlock

/-!
# Runs that refuse no file

Whether a file is refused because too many are open does not show in what a run ends with, as tasks
may drop errors. So it is said of another run, in which something else is done wherever a file would
be refused: nothing is refused if that never makes a difference. What then is done to find out is to
mark the session by a file that is never closed. Such a run goes like one that has fewer files open,
unless the mark is there at the end.
-/

namespace Playbook

open Engine Interpreter
open Yaml (Node)

/-! ## Runs that are not refused -/

/-- Runs a playbook file, but does something else where it is refused because of the limit. -/
def Engine.runFileOr (context : Context) (refuse : RunFile) : (remaining : Nat) → RunFile
  | 0, spans, path => refuse spans path
  | remaining + 1, spans, path => do
    if (← get).depth ≥ context.settings.includeLimit then refuse spans path
    else withFile context spans path (runTree context (runFileOr context refuse remaining) spans)

/-- Runs a document, but does something else where a file is refused. -/
def executeNodeOr (context : Context) (refuse : RunFile) (node : Node) : Run := do
  match Document.ofNode context.registry node with
  | .ok tree =>
    runTree context (runFileOr context refuse (context.settings.includeLimit + 1)) [] tree
  | .error error => throw (.parse error)

/-- The run of a document from a session does not reach the limit of open files: it would make no
difference what is done there. -/
def NeverRefuses (context : Context) (node : Node) (s : Session) : Prop :=
  ∀ refuse : RunFile, (executeNodeOr context refuse node).run s = (executeNode context node).run s

variable {context : Context}

theorem runFileOr_refusing (context : Context) (remaining : Nat) :
    runFileOr context (fun _ _ ↦ throw (.includeDepth context.settings.includeLimit)) remaining =
      runFileWithin context remaining := by
  induction remaining with
  | zero => rfl
  | succ remaining ih =>
    funext spans path
    rw [runFileOr, runFileWithin_succ, ih]

/-- What the engine does at the limit is to refuse. -/
theorem executeNodeOr_refusing (context : Context) (node : Node) :
    executeNodeOr context (fun _ _ ↦ throw (.includeDepth context.settings.includeLimit)) node =
      executeNode context node := by
  rw [executeNodeOr, runFileOr_refusing]
  rfl

theorem executeNodeOr_of_ok {refuse : RunFile} {nodes : List Node} {outlines : List Outline}
    (h : Outline.readItems context.registry [] 0 nodes = .ok outlines) :
    executeNodeOr context refuse (.seq nodes) = interpretAll context
      (runFileOr context refuse (context.settings.includeLimit + 1)) [] [] outlines := by
  have hnode : Outline.ofNode context.registry (.seq nodes) = .ok outlines := h
  rw [executeNodeOr, Outline.ofNode_eq_tree, hnode]
  exact runTree_eq context _ [] outlines

/-! ## What is the same since a moment -/

/-- A journal with earlier entries behind its own. -/
def Journal.after (since base : Journal) : Journal :=
  ⟨since.calls ++ base.calls, since.events ++ base.events, since.log ++ base.log,
    since.reads ++ base.reads⟩

/-- The journals have the same entries since they were the given ones, apart from where log entries
were made. The first run may stray. -/
def Likeness.since (base base' : Journal) : Likeness where
  journal j k := ∃ new : Journal, j.unspanned = new.after base.unspanned ∧
    k.unspanned = new.after base'.unspanned
  strays := True
  logged {j k} level message spans spans' := by
    rintro ⟨new, hj, hk⟩
    refine ⟨{ new with log := ⟨level, message, []⟩ :: new.log }, ?_, ?_⟩
    · exact congrArg (fun j ↦ { j with log := ⟨level, message, []⟩ :: j.log }) hj
    · exact congrArg (fun j ↦ { j with log := ⟨level, message, []⟩ :: j.log }) hk
  noted event := by
    rintro ⟨new, hj, hk⟩
    refine ⟨{ new with events := event :: new.events }, ?_, ?_⟩
    · exact congrArg (fun j ↦ { j with events := event :: j.events }) hj
    · exact congrArg (fun j ↦ { j with events := event :: j.events }) hk
  asked text := by
    rintro ⟨new, hj, hk⟩
    refine ⟨{ new with calls := text :: new.calls }, ?_, ?_⟩
    · exact congrArg (fun j ↦ { j with calls := text :: j.calls }) hj
    · exact congrArg (fun j ↦ { j with calls := text :: j.calls }) hk
  read reading := by
    rintro ⟨new, hj, hk⟩
    refine ⟨{ new with reads := reading :: new.reads }, ?_, ?_⟩
    · exact congrArg (fun j ↦ { j with reads := reading :: j.reads }) hj
    · exact congrArg (fun j ↦ { j with reads := reading :: j.reads }) hk

/-! ## Marking -/

/-- Marks the session by a file that stays open. -/
def mark : RunFile := fun _ _ ↦ do
  modify fun s ↦ { s with depth := s.depth + 1 }
  throw .blockDepth

theorem mark_run (spans : List String) (path : FilePath) (s : Session) :
    (mark spans path).run s = (.error .blockDepth, { s with depth := s.depth + 1 }) :=
  rfl

/-- A file is run alike unless it is refused where more files are open. -/
theorem runFileOr_alike {c : Likeness} (hstrays : c.strays) (remaining : Nat) :
    ∀ (others here there : Nat), there ≤ here → context.settings.includeLimit < others + there →
      ∀ spans spans' path, Alike c here there (runFileOr context mark remaining spans path)
        (runFileWithin context others spans' path) := by
  have hmark {here there : Nat} (spans : List String) (path : FilePath) (run : Run) :
      Alike c here there (mark spans path) run :=
    ⟨fun s t h ↦ .inl ⟨hstrays, Nat.lt_succ_of_le (Nat.le_of_eq h.depth_left.symm)⟩,
      fun s ↦ Nat.le_succ s.depth⟩
  induction remaining with
  | zero => exact fun others here there _ _ spans _ path ↦ hmark spans path _
  | succ remaining ih =>
    intro others here there hle hothers spans spans' path
    have hfile (others here there : Nat) (hle : there ≤ here)
        (hothers : context.settings.includeLimit < others + (there + 1)) :
        Alike c here there
          (withFile context spans path
            (runTree context (runFileOr context mark remaining) spans))
          (withFile context spans' path
            (runTree context (runFileWithin context others) spans')) := by
      refine withFile_alike (fun outlines ↦ ?_) spans spans' path
      rw [runTree_eq, runTree_eq]
      exact (OutlinesAlike.refl outlines).alike
        (ih others (here + 1) (there + 1) (Nat.succ_le_succ hle) hothers)
        (fun inherited ↦ Alike.inherit inherited []) spans spans'
    let entered (opened : Nat) : Run :=
      if opened ≥ context.settings.includeLimit then mark spans path
      else withFile context spans path (runTree context (runFileOr context mark remaining) spans)
    have hkeeps (opened : Nat) (s : Session) : s.depth ≤ ((entered opened).run s).2.depth := by
      dsimp only [entered]
      split
      · exact Nat.le_succ s.depth
      · exact (hfile context.settings.includeLimit 0 0 (Nat.le_refl 0) (by omega)).keeps s
    -- The first run reaches the limit first, as it has at least as many files open: then it is
    -- marked, whatever the second run does.
    by_cases hfull : here ≥ context.settings.includeLimit
    · refine Alike.lookDepth_left (f := entered) ?_ hkeeps
      rw [show entered here = mark spans path from if_pos hfull]
      exact hmark spans path _
    · obtain ⟨others, rfl⟩ : ∃ fewer, others = fewer + 1 :=
        Nat.exists_eq_succ_of_ne_zero (by omega)
      rw [runFileWithin_succ]
      refine Alike.lookDepth (f := entered) (g := fun opened ↦
        if opened ≥ context.settings.includeLimit then
          throw (ExecutionError.includeDepth context.settings.includeLimit)
        else withFile context spans' path (runTree context (runFileWithin context others) spans'))
        ?_ hkeeps
      have hfull' : ¬ there ≥ context.settings.includeLimit := by omega
      rw [show entered here = _ from if_neg hfull, if_neg hfull']
      exact hfile others here there hle (by omega)

/-! ## Files that are opened -/

/-- The journal once the playbook in a file was read. -/
def Journal.opening (journal : Journal) (spans : List String) (reading : Reading) : Journal :=
  { journal with
    log := ⟨.debug, "Parsed playbook", spans⟩ :: ⟨.info, "Executing playbook file", spans⟩ ::
      journal.log
    reads := reading :: journal.reads }

def Session.opening (s : Session) (spans : List String) (reading : Reading) : Session :=
  { s with journal := s.journal.opening spans reading }

/-- A file that can be read and parsed is run while it is open. -/
theorem withFile_run {spans : List String} {path : FilePath} {inside : Tree → Run} {s : Session}
    {text : String} {tree : Tree}
    (hread : s.files.readText (context.settings.locate path) = .ok text)
    (hparse : Document.ofText context.registry text = .ok tree) :
    (withFile context spans path inside).run s = (enclose (inside tree)).run
      (s.opening spans ⟨.playbook, context.settings.locate path, .ok text⟩) := by
  let located := context.settings.locate path
  let started := s.logged ⟨.info, "Executing playbook file", spans⟩
  have htext : (Acting.because (ParseError.io located) (Acting.readText located)).run started =
      (.ok text, started.withRead ⟨.playbook, located, .ok text⟩) := by
    have hstarted : started.files.readText located = .ok text := hread
    rw [because_run, Acting.readText, readFor_run, hstarted]
    rfl
  have hload : (Acting.because ExecutionError.parse (loadTree context located)).run started =
      (.ok tree, started.withRead ⟨.playbook, located, .ok text⟩) := by
    rw [because_run, loadTree, run_bind_of_ok htext, hparse]
    rfl
  have hlog : (Acting.log spans .info "Executing playbook file" : Run).run s = (.ok (), started) :=
    rfl
  refine (run_bind_of_ok hlog).trans ?_
  refine (run_bind_of_ok hload).trans ?_
  exact run_bind_of_ok rfl

variable {s : Session}

theorem runFileOr_full (h : context.settings.includeLimit ≤ s.depth) (refuse : RunFile)
    (remaining : Nat) (spans : List String) (path : FilePath) :
    (runFileOr context refuse remaining spans path).run s = (refuse spans path).run s := by
  cases remaining with
  | zero => rfl
  | succ remaining =>
    have hget : (get : Acting ExecutionError Session).run s = (.ok s, s) := rfl
    rw [runFileOr, run_bind_of_ok hget, if_pos h]

theorem runFileOr_open (h : s.depth < context.settings.includeLimit) {path : FilePath}
    {text : String} (hread : s.files.readText (context.settings.locate path) = .ok text)
    {outlines : List Outline}
    (hparse : Document.ofText context.registry text = .ok (Outline.tree outlines))
    (refuse : RunFile) (remaining : Nat) (spans : List String) :
    (runFileOr context refuse (remaining + 1) spans path).run s =
      (enclose (interpretAll context (runFileOr context refuse remaining) spans [] outlines)).run
        (s.opening spans ⟨.playbook, context.settings.locate path, .ok text⟩) := by
  have hget : (get : Acting ExecutionError Session).run s = (.ok s, s) := rfl
  rw [runFileOr, run_bind_of_ok hget, if_neg (Nat.not_le_of_lt h), withFile_run hread hparse,
    runTree_eq]

/-! ## Marked runs -/

/-- Runs a file, and marks the session where it is refused. -/
abbrev Engine.markedFile (context : Context) : RunFile :=
  runFileOr context mark (context.settings.includeLimit + 1)

theorem interpretAll_marked (context : Context) {c : Likeness} (hstrays : c.strays)
    (remaining : Nat) {here there : Nat} (h : there ≤ here) (spans spans' : List String)
    (outlines : List Outline) :
    Alike c here there (interpretAll context (runFileOr context mark remaining) spans [] outlines)
      (interpretAll context (runFile context) spans' [] outlines) := by
  have hinside : OutlinesAlike context c here there outlines outlines := .refl outlines
  have hlimit : context.settings.includeLimit < context.settings.includeLimit + 1 + there := by
    omega
  exact hinside.alike (runFileOr_alike hstrays remaining _ _ _ h hlimit)
    (fun inherited ↦ Alike.inherit inherited []) spans spans'

/-- What is marked is known at the end: if it is not, nothing was refused. -/
theorem interpretAll_unmarked {c : Likeness} (hstrays : c.strays) {opened : Nat} {s t : Session}
    (hst : c.Like opened opened s t) (outlines : List Outline)
    (hclosed :
      ((interpretAll context (markedFile context) [] [] outlines).run s).2.depth ≤ opened) :
    ((interpretAll context (markedFile context) [] [] outlines).run s).1 =
        ((interpretAll context (runFile context) [] [] outlines).run t).1 ∧
      c.Like opened opened ((interpretAll context (markedFile context) [] [] outlines).run s).2
        ((interpretAll context (runFile context) [] [] outlines).run t).2 := by
  have halike := interpretAll_marked context hstrays (context.settings.includeLimit + 1)
    (Nat.le_refl opened) [] [] outlines
  rcases halike.ends s t hst with ⟨-, hdepth⟩ | hends
  · exact absurd hdepth (Nat.not_lt_of_le hclosed)
  · exact hends

/-- A playbook closes the files it opens. -/
theorem interpretAll_depth (context : Context) (outlines : List Outline) (s : Session) :
    ((interpretAll context (runFile context) [] [] outlines).run s).2.depth = s.depth := by
  have hinside : OutlinesAlike context .unspanned s.depth s.depth outlines outlines :=
    .refl outlines
  rcases hinside.run.ends s s (Likeness.like_unspanned.mpr rfl) with ⟨hstrays, -⟩ | ⟨-, hlike⟩
  · exact hstrays.elim
  · exact hlike.depth_left

end Playbook
