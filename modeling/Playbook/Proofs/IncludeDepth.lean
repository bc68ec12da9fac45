import Playbook.Proofs.Nesting

/-!
# The depth of included files

The depth of a session counts the files that are open, at every moment of a run and whatever becomes
of the errors of the files. Running a file leaves the depth as it was, and is refused exactly when
the limit is reached; then nothing happens at all. So files fail at most as many levels down as the
limit says, and a file that includes itself fails that many levels down.
-/

namespace Playbook

open Engine
open Acting (Agree Ensures)

/-! ## How deep errors lie -/

mutual

/-- How many included files lie around the innermost cause of an error. -/
def TaskError.includes : TaskError → Nat
  | .init _ cause => cause.includes
  | .include _ cause => cause.includes + 1
  | _ => 0

def ExecutionError.includes : ExecutionError → Nat
  | .task _ cause => cause.includes
  | _ => 0

end

/-- An error that a task gives inside so many files, each of which includes the one at `path`. -/
def ExecutionError.within (kind : String) (path : FilePath) (cause : ExecutionError) :
    (layers : Nat) → ExecutionError
  | 0 => cause
  | layers + 1 => .task kind (.include path (within kind path cause layers))

theorem TaskError.IsPlain.includes_eq {error : TaskError} (h : error.IsPlain) :
    error.includes = 0 := by
  cases error
  case notRegistered | missing | init | «include» => exact h.elim
  all_goals rfl

theorem TaskError.Arises.includes_le {P : ExecutionError → Prop} {error : TaskError} {left : Nat}
    (h : error.Arises P) (hP : ∀ cause, P cause → cause.includes ≤ left) :
    error.includes ≤ left + 1 := by
  cases h with
  | plain plain =>
    rw [plain.includes_eq]
    exact Nat.zero_le _
  | init plain =>
    rw [TaskError.includes, plain.includes_eq]
    exact Nat.zero_le _
  | «include» inside => exact Nat.succ_le_succ (hP _ inside)

theorem FileFailure.includes_le {limit left : Nat} {error : ExecutionError}
    (h : FileFailure limit left error) : error.includes ≤ left := by
  induction left generalizing error with
  | zero =>
    obtain rfl := h
    exact Nat.le_refl 0
  | succ left ih =>
    rcases h with ⟨cause, rfl⟩ | harises
    · exact Nat.zero_le _
    · cases harises with
      | resolve | loopNotArray => exact Nat.zero_le _
      | task arises => exact arises.includes_le fun cause hcause ↦ ih hcause

/-- Below the limit the error is about what happens in the file. -/
theorem FileFailure.ne_includeDepth {limit left : Nat} {error : ExecutionError}
    (h : FileFailure limit (left + 1) error) : error ≠ .includeDepth limit := by
  rintro rfl
  rcases h with ⟨cause, hcause⟩ | harises
  · cases hcause
  · cases harises

/-! ## Refused files -/

variable {context : Context}

/-- At the limit a file is refused before anything happens. -/
theorem runFileWithin_full {s : Session} (h : context.settings.includeLimit ≤ s.depth)
    (remaining : Nat) (spans : List String) (path : FilePath) :
    (runFileWithin context remaining spans path).run s =
      (.error (.includeDepth context.settings.includeLimit), s) := by
  cases remaining with
  | zero => rfl
  | succ remaining =>
    have hget : (get : Acting ExecutionError Session).run s = (.ok s, s) := rfl
    rw [runFileWithin, run_bind_of_ok hget]
    simp only [ge_iff_le, h, if_true]
    rfl

/-- A file leaves the depth as it was; it is refused only at the limit. -/
theorem runFileWithin_depth {s s' : Session} {remaining : Nat}
    (hlimit : context.settings.includeLimit < s.depth + remaining) {spans : List String}
    {path : FilePath} {result : Except ExecutionError Unit}
    (h : (runFileWithin context remaining spans path).run s = (result, s')) :
    s'.depth = s.depth ∧ (result = .error (.includeDepth context.settings.includeLimit) →
      context.settings.includeLimit ≤ s.depth) := by
  let nesting := Nesting.counting context s.depth
  have hidle : ∀ s opened, (Watch.idle.moment opened).run s = (.ok (), s) := fun _ _ ↦ rfl
  have hagree := nesting.runFileWithin_agree (fun _ s opened _ _ ↦ hidle s opened) remaining 0 0 rfl
    hlimit spans path
  have hs : nesting.holds 0 s := ⟨rfl, id⟩
  cases result with
  | ok value => exact ⟨(hagree.of_run_ok hs h).1, nofun⟩
  | error error =>
    obtain ⟨hfailure, hdepth, -⟩ := hagree.of_run_error hs h
    refine ⟨hdepth, fun hresult ↦ ?_⟩
    by_contra hbelow
    obtain ⟨left, hleft⟩ : ∃ left, context.settings.includeLimit - nesting.depth 0 = left + 1 :=
      ⟨context.settings.includeLimit - s.depth - 1, by simp only [nesting, Nesting.counting]; omega⟩
    rw [hleft] at hfailure
    exact hfailure.ne_includeDepth (Except.error.inj hresult)

/-! ## Files that include themselves -/

/-- A playbook text whose only element includes the file at `path`, whatever was asked before. -/
structure Including (context : Context) (facts : Facts) (text : String) (path : FilePath) where
  tree : Tree
  slot : Slot
  element : Element
  kind : String
  parsed : Document.ofText context.registry text = .ok tree
  root : tree.roots = [slot]
  found : tree.get? slot = some element
  unguarded : element.guards = []
  unlooped : element.loop = none
  strict : element.ignoreErrors = false
  known : context.registry.find kind = .ok .include
  named : ∀ calls, ∃ resolved environment config r,
    (snapshot tree slot element ⟨context.resolver, facts⟩).run (.start calls) =
      (.ok (resolved, environment), r) ∧
    resolved.task = some ⟨kind, config⟩ ∧ decodeFiles config = .ok [path]

/-- The session with the given facts, files and depth. -/
def Session.Has (facts : Facts) (files : FileSystem) (depth : Nat) (s : Session) : Prop :=
  s.facts = facts ∧ s.files = files ∧ s.depth = depth

namespace Acting

variable {ε ε' α β : Type} {pre : Session → Prop} {x : Acting ε α} {error : ε}

/-- From every session with `pre` a computation fails with the given error. -/
abbrev Fails (pre : Session → Prop) (x : Acting ε α) (error : ε) : Prop :=
  Ensures pre x (fun _ _ ↦ False) fun found _ ↦ found = error

theorem Fails.bind (h : Fails pre x error) (f : α → Acting ε β) : Fails pre (x >>= f) error :=
  Agree.bind h fun _ _ hs ↦ hs.elim

theorem Fails.because (h : Fails pre x error) (wrap : ε → ε') :
    Fails pre (Acting.because wrap x) (wrap error) :=
  Agree.because (h.imp_bad fun _ _ hs ↦ congrArg wrap hs)

theorem Fails.attempt (h : Fails pre x error) {bad : ε' → Session → Prop} :
    Ensures pre (Acting.attempt x) (fun result _ ↦ result = .error error) bad :=
  Agree.attempt (h.imp (fun _ _ hs ↦ hs.elim) fun _ _ hs ↦ congrArg Except.error hs)

end Acting

open Acting (Fails)

variable {facts : Facts} {files : FileSystem} {depth : Nat}

theorem Session.Has.log {ε : Type} {bad : ε → Session → Prop} (spans : List String) (level : Level)
    (message : String) : Ensures (Session.Has facts files depth) (Acting.log spans level message)
      (fun _ ↦ Session.Has facts files depth) bad :=
  Agree.log fun _ hs ↦ hs

theorem Session.Has.note {ε : Type} {bad : ε → Session → Prop} (event : TaskEvent) :
    Ensures (Session.Has facts files depth) (Acting.note event)
      (fun _ ↦ Session.Has facts files depth) bad :=
  Agree.modify fun _ hs ↦ hs

namespace Including

variable {text : String} {path : FilePath} (including : Including context facts text path)
  {f : RunFile} {cause : ExecutionError}

theorem dispatch_fails (spans : List String)
    (hfile : Fails (Session.Has facts files depth) (f spans path) cause) {element : Element}
    {config : Config} (hstrict : element.ignoreErrors = false)
    (htask : element.task = some ⟨including.kind, config⟩)
    (hfiles : decodeFiles config = .ok [path]) (environment : Environment) :
    Fails (Session.Has facts files depth) (dispatch context f spans element environment)
      (.task including.kind (.include path cause)) := by
  have hinit : Task.init .include ⟨some ⟨including.kind, config⟩, environment⟩ =
      .ok (.include [path]) := by
    simp only [Task.init, TaskView.read, hfiles, Except.map]
  have hincluded : Fails (Session.Has facts files depth)
      (Task.run context spans (f spans) (.include [path])) (.include path cause) :=
    ((hfile.because (TaskError.include path)).bind _).bind _
  have hrun : Fails (Session.Has facts files depth)
      (runTask context f spans element including.kind (.include [path]))
      (.task including.kind (.include path cause)) := by
    refine (Session.Has.note _).bind fun _ ↦ hincluded.attempt.bind fun result ↦ ?_
    rintro s rfl
    simp only [hstrict]
    exact .inr ⟨_, s, rfl, rfl, rfl⟩
  unfold dispatch
  rw [htask]
  dsimp only
  rw [including.known]
  dsimp only
  rw [hinit]
  exact (Session.Has.log _ _ _).bind fun _ ↦ (Session.Has.note _).bind fun _ ↦ hrun.bind _

/-- What a snapshot of the element is like: a task that includes the file, and no block. -/
structure IsSnapshot (resolved : Element) : Prop where
  strict : resolved.ignoreErrors = false
  notBlock : resolved.isBlock = false
  named : ∃ config, resolved.task = some ⟨including.kind, config⟩ ∧ decodeFiles config = .ok [path]

theorem snapshot_ensures {bad : ExecutionError → Session → Prop} :
    Ensures (Session.Has facts files depth)
      (Acting.because .resolve
        (Acting.resolving context (snapshot including.tree including.slot including.element)))
      (fun found s ↦ including.IsSnapshot found.1 ∧ Session.Has facts files depth s) bad := by
  apply Agree.because
  intro s hs
  obtain ⟨resolved, environment, config, r, hresolve, htask, hfiles⟩ :=
    including.named s.journal.calls
  have hrun := resolving_run context (snapshot including.tree including.slot including.element) s
  rw [hs.1, hresolve] at hrun
  have hgives := Engine.snapshot_gives ⟨context.resolver, facts⟩
    (fun _ _ ↦ trivial : ∀ text ∈ including.tree.leaves, (fun _ ↦ True) text) including.slot
    (fun _ _ ↦ trivial : ∀ text ∈ including.element.leaves, (fun _ ↦ True) text)
    (.start s.journal.calls)
  rw [hresolve] at hgives
  have hshape : including.element.SameShape resolved := hgives.2 _ rfl
  have hsound := (Tree.wellFormed_of_ofText including.parsed).sound _ _ including.found
  have hnotBlock : resolved.isBlock = false := by
    have htask' : including.element.task ≠ none := by
      intro hnone
      have hkind := hshape.task
      rw [htask, hnone] at hkind
      cases hkind
    have hempty : including.element.block = [] := by
      by_contra hblock
      have hcontent := hsound.content
      rw [if_neg hblock] at hcontent
      exact htask' hcontent.1
    rw [Element.isBlock, hshape.block, hempty]
    rfl
  have hstrict : resolved.ignoreErrors = false := hshape.ignoreErrors.trans including.strict
  exact .inl ⟨_, _, hrun, hrun, ⟨hstrict, hnotBlock, config, htask, hfiles⟩, hs⟩

theorem runElement_fails
    (hfile : ∀ spans, Fails (Session.Has facts files depth) (f spans path) cause) (steps : Nat)
    (spans : List String) :
    Fails (Session.Has facts files depth)
      (runElement context f including.tree (steps + 1) spans including.slot)
      (.task including.kind (.include path cause)) := by
  have honce (child : Slot → Run) (spans : List String) : Fails (Session.Has facts files depth)
      (runOnce context f including.tree child spans including.slot including.element)
      (.task including.kind (.include path cause)) := by
    refine including.snapshot_ensures.bind fun found ↦ Agree.of_fact fun hfound ↦ ?_
    obtain ⟨config, htask, hfiles⟩ := hfound.named
    simp only [hfound.notBlock]
    exact including.dispatch_fails spans (hfile spans) hfound.strict htask hfiles _
  rw [runElement, including.found]
  dsimp only
  rw [including.unguarded, including.unlooped]
  exact honce _ _

theorem loadTree_ensures {start : FilePath} (hread : files.readText start = .ok text)
    {bad : ParseError → Session → Prop} :
    Ensures (Session.Has facts files depth) (loadTree context start)
      (fun tree s ↦ tree = including.tree ∧ Session.Has facts files depth s) bad := by
  have htext : Ensures (Session.Has facts files depth)
      (Acting.because (ParseError.io start) (Acting.readText start))
      (fun found s ↦ found = text ∧ Session.Has facts files depth s) bad := by
    refine Agree.because (Agree.get_bind fun s hs ↦ ?_)
    have hcontent : s.files.readText start = .ok text := by
      rw [hs.2.1, hread]
    rw [hcontent]
    have hset : Ensures (ε := FileError) (· = s) (set (s.withRead ⟨.playbook, start, .ok text⟩))
        (fun _ ↦ Session.Has facts files depth) fun error ↦ bad (.io start error) :=
      Agree.set fun _ _ ↦ hs
    exact hset.bind fun _ ↦ Agree.pure fun s hs ↦ ⟨rfl, hs⟩
  refine htext.bind fun found ↦ Agree.of_fact fun hfound ↦ ?_
  rw [hfound, including.parsed]
  exact Agree.pure fun s hs ↦ ⟨rfl, hs⟩

theorem withFile_fails {start : FilePath}
    (hread : files.readText (context.settings.locate start) = .ok text) {run : Tree → Run}
    (hrun : Fails (Session.Has facts files (depth + 1)) (run including.tree) cause)
    (spans : List String) :
    Fails (Session.Has facts files depth) (withFile context spans start run) cause := by
  have hload : Ensures (Session.Has facts files depth)
      (Acting.because .parse (loadTree context (context.settings.locate start)))
      (fun tree s ↦ tree = including.tree ∧ Session.Has facts files depth s)
      fun found _ ↦ found = cause := Agree.because (including.loadTree_ensures hread)
  have hopen : Ensures (Session.Has facts files depth)
      (modify fun s ↦ { s with depth := s.depth + 1 })
      (fun _ ↦ Session.Has facts files (depth + 1)) fun found _ ↦ found = cause :=
    Agree.modify fun s hs ↦ ⟨hs.1, hs.2.1, congrArg (· + 1) hs.2.2⟩
  refine (Session.Has.log _ _ _).bind fun _ ↦ hload.bind fun tree ↦ Agree.of_fact fun htree ↦ ?_
  subst htree
  refine (Session.Has.log _ _ _).bind fun _ ↦ hopen.bind fun _ ↦ ?_
  exact Agree.rethrow ⟨fun _ ↦ rfl, fun _ ↦ rfl⟩ ⟨fun _ ↦ rfl, fun _ ↦ rfl⟩ hrun

/-- A file that includes itself fails as many files further down as may still be opened. -/
theorem runFileWithin_fails (hself : files.readText (context.settings.locate path) = .ok text)
    (left : Nat) : ∀ {remaining depth : Nat}, context.settings.includeLimit = depth + left →
    left < remaining → ∀ {start : FilePath},
    files.readText (context.settings.locate start) = .ok text → ∀ spans,
    Fails (Session.Has facts files depth) (runFileWithin context remaining spans start)
      (.within including.kind path (.includeDepth context.settings.includeLimit) left) := by
  induction left with
  | zero =>
    intro remaining depth hlimit hleft start hread spans s hs
    have hfull : context.settings.includeLimit ≤ s.depth := by
      rw [hs.2.2, hlimit]
      exact Nat.le_refl _
    have hrun := runFileWithin_full hfull remaining spans start
    exact .inr ⟨_, _, hrun, hrun, rfl⟩
  | succ left ih =>
    intro remaining depth hlimit hleft start hread spans
    cases remaining with
    | zero => omega
    | succ remaining =>
      have hfile : ∀ spans, Fails (Session.Has facts files (depth + 1))
          (runFileWithin context remaining spans path)
          (.within including.kind path (.includeDepth context.settings.includeLimit) left) :=
        ih (by omega) (by omega) hself
      have hinside : Fails (Session.Has facts files (depth + 1))
          (runTree context (runFileWithin context remaining) spans including.tree)
          (.within including.kind path (.includeDepth context.settings.includeLimit)
            (left + 1)) := by
        rw [runTree, including.root]
        exact (including.runElement_fails hfile (including.tree.size + 1023) spans).bind _
      rw [runFileWithin_succ]
      refine Agree.get_bind_of_pre fun s hs ↦ ?_
      have hdepth : ¬s.depth ≥ context.settings.includeLimit := by
        rw [hs.2.2]
        omega
      rw [if_neg hdepth]
      exact including.withFile_fails hread hinside spans

theorem runPlaybook_fails (hself : files.readText (context.settings.locate path) = .ok text)
    {left : Nat} (hlimit : context.settings.includeLimit = depth + left) {start : FilePath}
    (hread : files.readText (context.settings.locate start) = .ok text) :
    Fails (Session.Has facts files depth) (runPlaybook context start)
      (.within including.kind path (.includeDepth context.settings.includeLimit) left) := by
  have hfile : Fails (Session.Has facts files depth) (executeFile context start)
      (.within including.kind path (.includeDepth context.settings.includeLimit) left) :=
    including.runFileWithin_fails hself left hlimit (by omega) hread []
  refine (Session.Has.log _ _ _).bind fun _ ↦ hfile.attempt.bind fun result ↦ ?_
  rintro s rfl
  exact .inr ⟨_, _, rfl, rfl, rfl⟩

end Including

/-! ## The depth is exact -/

/-- The depth of included files is exact. A watch that does nothing while the depth is what it was
plus the number of files that are open, and within the limit, changes nothing. Every run of a file
leaves the depth as it was, and is refused exactly at the limit, where it leaves everything as it
was. An error of a whole run lies inside as many files as may be open at most, and that of a file
that includes itself inside exactly so many. -/
theorem include_depth (context : Context) (s : Session) :
    (s.depth ≤ context.settings.includeLimit → ∀ watch : Watch,
      (∀ found opened, found.depth = s.depth + opened →
        found.depth ≤ context.settings.includeLimit →
        (watch.moment opened).run found = (.ok (), found)) →
      ∀ entry : Entry, (watch.execute context entry).run s = (entry.execute context).run s) ∧
    (∀ remaining, context.settings.includeLimit < s.depth + remaining →
      ∀ spans path result s', (runFileWithin context remaining spans path).run s = (result, s') →
      s'.depth = s.depth ∧ (result = .error (.includeDepth context.settings.includeLimit) ↔
        context.settings.includeLimit ≤ s.depth) ∧
      (context.settings.includeLimit ≤ s.depth → s' = s)) ∧
    (∀ path error s', (runPlaybook context path).run s = (.error error, s') →
      error.includes ≤ context.settings.includeLimit - s.depth) ∧
    (s.depth ≤ context.settings.includeLimit → ∀ text path start,
      s.files.readText (context.settings.locate path) = .ok text →
      s.files.readText (context.settings.locate start) = .ok text →
      ∀ including : Including context s.facts text path, ∃ s',
        (runPlaybook context start).run s = (.error (.within including.kind path
          (.includeDepth context.settings.includeLimit)
          (context.settings.includeLimit - s.depth)), s')) := by
  refine ⟨fun houter watch hmoment entry ↦ ?_, fun remaining hlimit spans path result s' hrun ↦ ?_,
    fun path error s' hrun ↦ ?_, fun houter text path start hself hread including ↦ ?_⟩
  · have hquiet : ∀ found opened, found.depth = s.depth + opened →
        (s.depth ≤ context.settings.includeLimit → found.depth ≤ context.settings.includeLimit) →
        (watch.moment opened).run found = (.ok (), found) := fun found opened hdepth hlimit ↦
      hmoment found opened hdepth (hlimit houter)
    exact (execute_counting context s.depth hquiet entry).run_eq rfl
  · obtain ⟨hdepth, hrefused⟩ := runFileWithin_depth hlimit hrun
    have hfull (h : context.settings.includeLimit ≤ s.depth) :=
      Prod.mk.inj (hrun.symm.trans (runFileWithin_full h remaining spans path))
    exact ⟨hdepth, ⟨hrefused, fun h ↦ (hfull h).1⟩, fun h ↦ (hfull h).2⟩
  · have hfailure : FileFailure context.settings.includeLimit
        (context.settings.includeLimit - s.depth) error := execute_failure (.playbook path) hrun
    exact hfailure.includes_le
  · have hlimit : context.settings.includeLimit =
        s.depth + (context.settings.includeLimit - s.depth) := by
      omega
    have hfails := including.runPlaybook_fails hself hlimit hread
    rcases hfails s ⟨rfl, rfl, rfl⟩ with ⟨_, _, _, _, hnever⟩ | ⟨error, s', hrun, -, rfl⟩
    · exact hnever.elim
    · exact ⟨s', hrun⟩

/-- A watch that leaves a mark once the depth is not the number of open files or above a limit. -/
def Watch.alarm (limit : Nat) : Watch :=
  { Watch.idle with moment := fun opened ↦ modify fun s ↦
      if s.depth = opened ∧ s.depth ≤ limit then s else s.setFact "alarm" (.bool true) }

def loopingText : String := "- include: {files: [self.yaml]}\n"

/-- A working directory with a playbook that includes itself. -/
def loopingFiles : FileSystem :=
  (FileSystem.initial ["work"]).place "self.yaml"
    (.file (Text.Utf8.encode loopingText) FileSystem.newFileMode)

/-- At most three files inside each other, and texts that stand for themselves. -/
def loopingContext (registry : Registry) : Context :=
  ⟨{ Settings.standard with includeLimit := 3 }, registry, fun text _ ↦ .ok text, ∅⟩

def loopingNode : Yaml.Node :=
  .seq [.map [(.str "include", .map [(.str "files", .seq [.str "self.yaml"])])]]

/-- Whether a document has one element, which includes the file. -/
def includesSelf : Except Yaml.Fault Yaml.Node → Bool
  | .ok (.seq [.map [(.str kind, .map [(.str field, .seq [.str path])])]]) =>
    kind == "include" && field == "files" && path == "self.yaml"
  | _ => false

theorem eq_of_includesSelf {found : Except Yaml.Fault Yaml.Node} (h : includesSelf found = true) :
    found = .ok loopingNode := by
  unfold includesSelf at h
  split at h
  · simp_all [loopingNode]
  · cases h

theorem looping_including : ∃ registry, Registry.ofKinds TaskKind.standard = .ok registry ∧
    ∃ including : Including (loopingContext registry) ∅ loopingText "self.yaml",
      including.kind = "include" := by
  have hblank : Document.isBlankText loopingText = false := by
    decide +kernel
  have hparse : Yaml.Node.parse loopingText = .ok loopingNode := by
    apply eq_of_includesSelf
    decide +kernel
  have hread (registry : Registry) (tree : Tree)
      (h : Document.ofNode registry loopingNode = .ok tree) :
      Document.ofText registry loopingText = .ok tree := by
    rw [Document.ofText, hblank, hparse]
    exact h
  refine ⟨_, rfl, ⟨_, 0, _, "include", hread _ _ rfl, rfl, rfl, rfl, rfl, rfl, rfl, ?_⟩, rfl⟩
  intro calls
  exact ⟨_, _, _, _, rfl, rfl, rfl⟩

theorem include_depth_looping : ∃ registry error s',
    Registry.ofKinds TaskKind.standard = .ok registry ∧
      (runPlaybook (loopingContext registry) "self.yaml").run (.start .standard loopingFiles) =
        (.error error, s') ∧
      error = .within "include" "self.yaml" (.includeDepth 3) 3 ∧ error.includes ≤ 3 ∧
      ((Watch.alarm 3).execute (loopingContext registry) (.playbook "self.yaml")).run
        (.start .standard loopingFiles) = (.error error, s') ∧
      ∀ result after, (executeFile (loopingContext registry) "self.yaml").run
        (.start .standard loopingFiles) = (result, after) → after.depth = 0 := by
  obtain ⟨registry, hregistry, including, hkind⟩ := looping_including
  have hread : loopingFiles.readText (FilePath.join "." "self.yaml") = .ok loopingText := by
    decide +kernel
  have hquiet : ∀ (found : Session) opened, found.depth = 0 + opened → found.depth ≤ 3 →
      ((Watch.alarm 3).moment opened).run found = (.ok (), found) := by
    intro found opened hdepth hlimit
    have hcalm : found.depth = opened ∧ found.depth ≤ 3 := ⟨by omega, hlimit⟩
    have hmoment : ((Watch.alarm 3).moment opened).run found =
        (.ok (), if found.depth = opened ∧ found.depth ≤ 3 then found
          else found.setFact "alarm" (.bool true)) := rfl
    rw [hmoment, if_pos hcalm]
  have hwithin : 0 ≤ 3 := by
    decide
  have hremaining : 3 < 0 + 4 := by
    decide
  obtain ⟨hwatched, hfiles, hlayers, hitself⟩ :=
    include_depth (loopingContext registry) (.start .standard loopingFiles)
  obtain ⟨s', hrun⟩ := hitself hwithin loopingText "self.yaml" "self.yaml" hread hread including
  rw [hkind] at hrun
  refine ⟨registry, _, s', hregistry, hrun, rfl, hlayers _ _ _ hrun, ?_, fun result after h ↦ ?_⟩
  · exact (hwatched hwithin (.alarm 3) hquiet (.playbook "self.yaml")).trans hrun
  · exact (hfiles 4 hremaining [] "self.yaml" result after h).1

end Playbook
