import Playbook.Proofs.Watch

/-!
# Files inside files

While a file is open a run may rest on more than before: it knows which text the file had, and may
ask for the strings in it. A nesting gives the invariant for every stack of open files and says what
opening and closing a file does to it. A run keeps the invariant that it starts with, and how it
fails depends on how many files could still be opened.
-/

namespace Playbook

open Engine
open Acting (Agree AgreeKeeping Ensures Keeps)

/-- How the run of a file fails when at most `left` more files may be open at once. -/
def FileFailure (limit : Nat) : (left : Nat) → ExecutionError → Prop
  | 0, error => error = .includeDepth limit
  | left + 1, error => (∃ cause, error = .parse cause) ∨ error.Arises (FileFailure limit left)

theorem Outline.sound_of_ofText {registry : Registry} {text : String} {outlines : List Outline}
    (h : Outline.ofText registry text = .ok outlines) :
    ∀ outline ∈ outlines, outline.Sound registry := by
  unfold Outline.ofText at h
  split at h
  · cases h
    simp
  · split at h
    · exact Outline.sound_of_ofNode h
    · cases h

theorem Tree.wellFormed_of_ofText {registry : Registry} {text : String} {tree : Tree}
    (h : Document.ofText registry text = .ok tree) : tree.WellFormed registry := by
  rw [Outline.ofText_eq_tree] at h
  obtain ⟨outlines, hread, rfl⟩ := Outline.map_eq_ok.mp h
  exact Outline.wellFormed_tree (Outline.sound_of_ofText hread)

/-- Invariants for stacks of open files, each with the strings that may be asked for meanwhile. -/
structure Nesting (context : Context) (Stack : Type) where
  holds : Stack → Session → Prop
  asks : Stack → String → Prop
  depth : Stack → Nat
  /-- The stack with one more file of the given text. -/
  inside : Stack → String → Stack
  upheld : ∀ stack, Upheld context (asks stack) (holds stack)
  depth_eq : ∀ stack s, holds stack s → s.depth = depth stack
  depth_inside : ∀ stack text, depth (inside stack text) = depth stack + 1
  read : ∀ stack s path content, holds stack s → holds stack (s.withRead ⟨.playbook, path, content⟩)
  opened : ∀ stack s path text, holds stack s → s.depth < context.settings.includeLimit →
    holds (inside stack text)
      { s.withRead ⟨.playbook, path, .ok text⟩ with depth := s.depth + 1 }
  closed : ∀ stack s text, holds (inside stack text) s → holds stack { s with depth := s.depth - 1 }
  written : ∀ stack text tree, Document.ofText context.registry text = .ok tree →
    ∀ leaf ∈ tree.leaves, asks (inside stack text) leaf

namespace Nesting

variable {context : Context} {Stack : Type} (nesting : Nesting context Stack)

/-- Loading a tree leaves everything ready for opening its file. -/
theorem loadTree_ensures {stack : Stack}
    (hlimit : nesting.depth stack < context.settings.includeLimit) (path : FilePath) :
    Ensures (nesting.holds stack) (loadTree context path)
      (fun tree s ↦ ∃ text, Document.ofText context.registry text = .ok tree ∧
        nesting.holds (nesting.inside stack text) { s with depth := s.depth + 1 })
      (fun _ ↦ nesting.holds stack) := by
  let loaded (text : String) (s : Session) : Prop := nesting.holds stack s ∧
    nesting.holds (nesting.inside stack text) { s with depth := s.depth + 1 }
  have hread : Ensures (nesting.holds stack)
      (Acting.because (ParseError.io path) (Acting.readText path)) loaded
      (fun _ ↦ nesting.holds stack) := by
    refine Agree.because (Agree.get_bind fun s hs ↦ ?_)
    have hbelow : s.depth < context.settings.includeLimit := by
      rw [nesting.depth_eq stack s hs]
      exact hlimit
    cases s.files.readText path with
    | ok text =>
      have hset : Ensures (ε := FileError) (· = s) (set (s.withRead ⟨.playbook, path, .ok text⟩))
          (fun _ ↦ loaded text) (fun _ ↦ nesting.holds stack) := Agree.set fun _ _ ↦
        ⟨nesting.read stack s path _ hs, nesting.opened stack s path text hs hbelow⟩
      exact hset.bind fun _ ↦ Agree.pure fun s' hs' ↦ hs'
    | error fault =>
      have hset : Ensures (ε := FileError) (· = s)
          (set (s.withRead ⟨.playbook, path, .error fault⟩)) (fun _ ↦ nesting.holds stack)
          (fun _ ↦ nesting.holds stack) :=
        Agree.set fun _ _ ↦ nesting.read stack s path _ hs
      exact hset.bind fun _ ↦ Agree.throw fun s' hs' ↦ hs'
  refine hread.bind fun text ↦ ?_
  cases hparse : Document.ofText context.registry text with
  | ok tree => exact Agree.pure fun s hs ↦ ⟨text, hparse, hs.2⟩
  | error error => exact Agree.throw fun s hs ↦ hs.1

variable {nesting}

/-- A file is run alike when what is done inside is, whatever its text is. -/
theorem withFile_agree {stack : Stack}
    (hlimit : nesting.depth stack < context.settings.includeLimit) {x y : Tree → Run}
    {P : ExecutionError → Prop} (hinside : ∀ text tree,
      Document.ofText context.registry text = .ok tree →
      AgreeKeeping (nesting.holds (nesting.inside stack text)) (·.Arises P) (x tree) (y tree))
    (spans : List String) (path : FilePath) :
    AgreeKeeping (nesting.holds stack)
      (fun error ↦ (∃ cause, error = .parse cause) ∨ error.Arises P)
      (withFile context spans path x) (withFile context spans path y) := by
  let bad (error : ExecutionError) (s : Session) : Prop :=
    ((∃ cause, error = .parse cause) ∨ error.Arises P) ∧ nesting.holds stack s
  let ready (text : String) (s : Session) : Prop :=
    nesting.holds (nesting.inside stack text) { s with depth := s.depth + 1 }
  have hload : Ensures (nesting.holds stack)
      (Acting.because .parse (loadTree context (context.settings.locate path)))
      (fun tree s ↦ ∃ text, Document.ofText context.registry text = .ok tree ∧ ready text s) bad :=
    Agree.because ((nesting.loadTree_ensures hlimit _).imp_bad fun cause _ hs ↦
      ⟨.inl ⟨cause, rfl⟩, hs⟩)
  refine ((nesting.upheld stack).log spans .info _).bind fun _ ↦ hload.bind fun tree ↦ ?_
  refine Agree.of_exists fun text ↦ Agree.of_fact fun hparse ↦ ?_
  have hparsed : Ensures (ready text) (Acting.log spans .debug "Parsed playbook")
      (fun _ ↦ ready text) bad :=
    Agree.log fun s hs ↦ (nesting.upheld (nesting.inside stack text)).logged _ _ hs
  have hopen : Ensures (ready text) (modify fun s ↦ { s with depth := s.depth + 1 })
      (fun _ ↦ nesting.holds (nesting.inside stack text)) bad := Agree.modify fun _ hs ↦ hs
  refine hparsed.bind fun _ ↦ hopen.bind fun _ ↦
    Agree.rethrow ⟨fun _ ↦ rfl, fun _ ↦ rfl⟩ ⟨fun _ ↦ rfl, fun _ ↦ rfl⟩ ?_
  exact (hinside text tree hparse).imp (fun _ s hs ↦ nesting.closed stack s text hs)
    fun _ s hs ↦ ⟨.inr hs.1, nesting.closed stack s text hs.2⟩

/-- The watch does nothing while the invariant of a stack holds, `outer` files being open before the
ones that it counts. -/
def Quiet (nesting : Nesting context Stack) (watch : Watch) (outer : Nat) : Prop :=
  ∀ stack s opened, nesting.holds stack s → nesting.depth stack = outer + opened →
    (watch.moment opened).run s = (.ok (), s)

variable {watch : Watch} {outer : Nat}

/-- A file is run as without the watch, when the watch does nothing while the invariant holds. -/
theorem runFileWithin_agree (hquiet : nesting.Quiet watch outer) (remaining : Nat) :
    ∀ opened stack, nesting.depth stack = outer + opened →
    context.settings.includeLimit < nesting.depth stack + remaining → ∀ spans path,
    AgreeKeeping (nesting.holds stack)
      (FileFailure context.settings.includeLimit
        (context.settings.includeLimit - nesting.depth stack))
      (watch.runFileWithin context remaining opened spans path)
      (Engine.runFileWithin context remaining spans path) := by
  induction remaining with
  | zero =>
    intro opened stack hopened hlimit spans path
    have hleft : context.settings.includeLimit - nesting.depth stack = 0 := by
      omega
    rw [hleft]
    exact Agree.throw fun s hs ↦ ⟨rfl, hs⟩
  | succ remaining ih =>
    intro opened stack hopened hlimit spans path
    rw [Watch.runFileWithin, Engine.runFileWithin_succ]
    refine Watch.around_agree (fun s hs ↦ hquiet stack s opened hs hopened) ?_
    refine Agree.get_bind_of_pre fun s hs ↦ ?_
    rw [nesting.depth_eq stack s hs]
    split
    · have hleft : context.settings.includeLimit - nesting.depth stack = 0 := by
        omega
      rw [hleft]
      exact Agree.throw fun _ hs ↦ ⟨rfl, hs⟩
    · obtain ⟨left, hleft⟩ : ∃ left,
          context.settings.includeLimit - nesting.depth stack = left + 1 :=
        ⟨context.settings.includeLimit - nesting.depth stack - 1, by omega⟩
      rw [hleft]
      refine withFile_agree (by omega) (fun text tree hparse ↦ ?_) spans path
      have hdepth := nesting.depth_inside stack text
      have hfewer : context.settings.includeLimit - nesting.depth (nesting.inside stack text) =
          left := by
        omega
      rw [← hfewer]
      exact Watch.runTree_agree (nesting.upheld _)
        (fun s hs ↦ hquiet _ s (opened + 1) hs (by omega)) (Tree.wellFormed_of_ofText hparse)
        (nesting.written stack text tree hparse) (ih (opened + 1) _ (by omega) (by omega)) spans

section

variable {stack : Stack}

/-- A text is run as without the watch, if its strings may be asked for. -/
theorem executeText_agree (hquiet : nesting.Quiet watch outer)
    (hdepth : nesting.depth stack = outer) {text : String}
    (hwritten : ∀ tree, Document.ofText context.registry text = .ok tree →
      ∀ leaf ∈ tree.leaves, nesting.asks stack leaf) :
    AgreeKeeping (nesting.holds stack)
      (FileFailure context.settings.includeLimit (context.settings.includeLimit - outer + 1))
      (watch.executeText context text) (Playbook.executeText context text) := by
  unfold Watch.executeText Playbook.executeText
  cases hparse : Document.ofText context.registry text with
  | error error => exact Agree.throw fun s hs ↦ ⟨.inl ⟨error, rfl⟩, hs⟩
  | ok tree =>
    have hrun := Watch.runTree_agree (nesting.upheld stack)
      (fun s hs ↦ hquiet stack s 0 hs hdepth) (Tree.wellFormed_of_ofText hparse)
      (hwritten tree hparse)
      (runFileWithin_agree hquiet (context.settings.includeLimit + 1) 0 stack hdepth
        (by omega)) []
    rw [hdepth] at hrun
    exact hrun.imp_bad fun _ _ hs ↦ ⟨.inr hs.1, hs.2⟩

theorem executeFile_agree (hquiet : nesting.Quiet watch outer)
    (hdepth : nesting.depth stack = outer) (path : FilePath) :
    AgreeKeeping (nesting.holds stack)
      (FileFailure context.settings.includeLimit (context.settings.includeLimit - outer))
      (watch.executeFile context path) (Playbook.executeFile context path) := by
  have hrun := runFileWithin_agree hquiet (context.settings.includeLimit + 1) 0 stack
    hdepth (by omega) [] path
  rwa [hdepth] at hrun

theorem runPlaybook_agree (hquiet : nesting.Quiet watch outer)
    (hdepth : nesting.depth stack = outer) (path : FilePath) :
    AgreeKeeping (nesting.holds stack)
      (FileFailure context.settings.includeLimit (context.settings.includeLimit - outer))
      (watch.runPlaybook context path) (Playbook.runPlaybook context path) := by
  have hfile := executeFile_agree hquiet hdepth path
  have hupheld := nesting.upheld stack
  refine (hupheld.log [] .info _).bind fun _ ↦ hfile.attempt_keeping.bind fun result ↦ ?_
  cases result with
  | ok value => exact (hupheld.log [] .info _).of_imp fun _ hs ↦ hs.2
  | error error =>
    refine Agree.of_fact fun hfailure ↦ (hupheld.log [] .error _).bind fun _ ↦ ?_
    exact Agree.throw fun _ hs ↦ ⟨hfailure error rfl, hs⟩

end

end Nesting

/-- How many files can still be opened inside each other when a run starts; a text counts as one. -/
def Entry.left (limit depth : Nat) : Entry → Nat
  | .text _ => limit - depth + 1
  | .file _ | .playbook _ => limit - depth

/-- Every run is as without the watch. -/
theorem Nesting.execute_agree {context : Context} {Stack : Type} (nesting : Nesting context Stack)
    {watch : Watch} {stack : Stack} (hquiet : nesting.Quiet watch (nesting.depth stack))
    {entry : Entry} (hwritten : ∀ text, entry = .text text → ∀ tree,
      Document.ofText context.registry text = .ok tree →
      ∀ leaf ∈ tree.leaves, nesting.asks stack leaf) :
    AgreeKeeping (nesting.holds stack)
      (FileFailure context.settings.includeLimit
        (entry.left context.settings.includeLimit (nesting.depth stack)))
      (watch.execute context entry) (entry.execute context) := by
  cases entry with
  | text text => exact executeText_agree hquiet rfl (hwritten text rfl)
  | file path => exact executeFile_agree hquiet rfl path
  | playbook path => exact runPlaybook_agree hquiet rfl path

/-- The depth counts the open files, and stays within the limit if it was within it at first. -/
def Nesting.counting (context : Context) (outer : Nat) : Nesting context Nat where
  holds opened s := s.depth = outer + opened ∧
    (outer ≤ context.settings.includeLimit → s.depth ≤ context.settings.includeLimit)
  asks _ _ := True
  depth opened := outer + opened
  inside opened _ := opened + 1
  upheld _ :=
    { logged := fun _ _ hs ↦ hs
      noted := fun _ _ hs ↦ hs
      facts := fun _ _ hs ↦ hs
      files := fun _ _ hs ↦ hs
      cancelled := fun _ hs ↦ hs
      asked := fun _ _ _ hs ↦ hs
      unread := fun _ _ _ hs ↦ hs
      template := fun _ _ _ hs ↦ hs
      rendered := fun _ _ ↦ trivial }
  depth_eq _ _ hs := hs.1
  depth_inside _ _ := rfl
  read _ _ _ _ hs := hs
  opened opened s _ _ hs hlimit := by
    have hdepth := hs.1
    exact ⟨by simp only; omega, fun _ ↦ hlimit⟩
  closed opened s _ hs := by
    obtain ⟨hdepth, hlimit⟩ := hs
    exact ⟨by simp only; omega, fun houter ↦ Nat.le_trans (Nat.sub_le _ _) (hlimit houter)⟩
  written _ _ _ _ _ _ := trivial

/-- A watch may rely on what the depth counts, and a run leaves the depth as it was. -/
theorem execute_counting (context : Context) (outer : Nat) {watch : Watch}
    (hmoment : ∀ s opened, s.depth = outer + opened →
      (outer ≤ context.settings.includeLimit → s.depth ≤ context.settings.includeLimit) →
      (watch.moment opened).run s = (.ok (), s)) (entry : Entry) :
    AgreeKeeping (fun s ↦ s.depth = outer)
      (FileFailure context.settings.includeLimit (entry.left context.settings.includeLimit outer))
      (watch.execute context entry) (entry.execute context) := by
  let nesting := Nesting.counting context outer
  have hagree : AgreeKeeping (nesting.holds 0)
      (FileFailure context.settings.includeLimit (entry.left context.settings.includeLimit outer))
      (watch.execute context entry) (entry.execute context) := by
    refine nesting.execute_agree (fun inner s opened hs hinner ↦ ?_) fun _ _ _ _ _ _ ↦ trivial
    have hdepth : s.depth = outer + inner := hs.1
    have hopened : outer + inner = outer + 0 + opened := hinner
    exact hmoment s opened (by omega) hs.2
  refine hagree.mono (fun s hs ↦ ⟨hs, ?_⟩) (fun _ _ hs ↦ hs.1) fun _ _ hs ↦ ⟨hs.1, hs.2.1⟩
  rw [hs]
  exact id

theorem execute_failure {context : Context} (entry : Entry) {s s' : Session}
    {error : ExecutionError} (h : (entry.execute context).run s = (.error error, s')) :
    FileFailure context.settings.includeLimit
      (entry.left context.settings.includeLimit s.depth) error := by
  have hidle : ∀ s opened, (Watch.idle.moment opened).run s = (.ok (), s) := fun _ _ ↦ rfl
  have hagree := execute_counting context s.depth (fun s opened _ _ ↦ hidle s opened) entry
  exact (hagree.of_run_error rfl h).1

end Playbook
