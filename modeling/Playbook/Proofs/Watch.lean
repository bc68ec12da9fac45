import Playbook.Proofs.Conduct

/-!
# Watched runs

A watched run is a run that is interrupted: before and after every file, every tree of a file, every
element and every pass of a loop the watch may do what it likes with the session, and it is told how
many files are open then. It also has its own answer where the engine would look up a slot that the
tree does not have, or would follow blocks too far down.

So what a watch cannot notice never happens. When it does nothing in sessions with some invariant,
and the run upholds the invariant, then watching changes nothing, whatever the watch does elsewhere.
-/

namespace Playbook

open Engine
open Acting (Agree AgreeKeeping Ensures Keeps)

/-- Opens a file for what is done with its tree, and closes it again also when that fails. -/
def Engine.withFile (context : Context) (spans : List String) (path : FilePath)
    (inside : Tree → Run) : Run := do
  let path := context.settings.locate path
  Acting.log spans .info "Executing playbook file"
  let tree ← Acting.because .parse (loadTree context path)
  Acting.log spans .debug "Parsed playbook"
  modify fun s ↦ { s with depth := s.depth + 1 }
  let result ← Acting.attempt (inside tree)
  modify fun s ↦ { s with depth := s.depth - 1 }
  match result with
  | .ok () => return ()
  | .error error => throw error

/-- Running a file is running its tree while it is open, unless too many files are open. -/
theorem Engine.runFileWithin_succ (context : Context) (remaining : Nat) (spans : List String)
    (path : FilePath) : runFileWithin context (remaining + 1) spans path = (do
      if (← get).depth ≥ context.settings.includeLimit then
        throw (.includeDepth context.settings.includeLimit)
      else withFile context spans path (runTree context (runFileWithin context remaining) spans)) :=
  rfl

structure Watch where
  /-- What happens at a moment at which some files are open. -/
  moment : (opened : Nat) → Run
  lost : Slot → Run
  deep : Run

/-- Where a run starts: with a text, with a file, or with a file as a whole run. -/
inductive Entry where
  | text (content : String)
  | file (path : FilePath)
  | playbook (path : FilePath)

def Entry.execute (context : Context) : Entry → Run
  | .text content => executeText context content
  | .file path => executeFile context path
  | .playbook path => runPlaybook context path

namespace Watch

/-- The watch that leaves everything as it is. -/
def idle : Watch :=
  ⟨fun _ ↦ return (), fun slot ↦ throw (.unknownSlot slot), throw .blockDepth⟩

/-- Interrupts before and after something, also when that fails. -/
def around (watch : Watch) (opened : Nat) (run : Run) : Run := do
  watch.moment opened
  let result ← Acting.attempt run
  watch.moment opened
  match result with
  | .ok () => return ()
  | .error error => throw error

def runElement (watch : Watch) (opened : Nat) (context : Context) (runFile : RunFile)
    (tree : Tree) : (depth : Nat) → (spans : List String) → Slot → Run
  | 0, _, _ => watch.deep
  | depth + 1, spans, slot => do
    match tree.get? slot with
    | none => watch.lost slot
    | some element =>
      watch.around opened do
        let spans := spans ++ [element.displayName]
        if ← holds context spans element.guards then
          let once := watch.around opened (runOnce context runFile tree
            (runElement watch opened context runFile tree depth spans) spans slot element)
          match element.loop with
          | none => once
          | some spec =>
            let items ← loopItems context spec
            Acting.log spans .debug "Starting loop"
            runItems once items
        else Acting.log spans .debug "Skipping element, condition not met"

def runTree (watch : Watch) (opened : Nat) (context : Context) (runFile : RunFile)
    (spans : List String) (tree : Tree) : Run :=
  watch.around opened
    (runAll (watch.runElement opened context runFile tree (blockDepth tree) spans) tree.roots)

def runFileWithin (watch : Watch) (context : Context) :
    (remaining opened : Nat) → RunFile
  | 0, _, _, _ => throw (.includeDepth context.settings.includeLimit)
  | remaining + 1, opened, spans, path => watch.around opened do
    if (← get).depth ≥ context.settings.includeLimit then
      throw (.includeDepth context.settings.includeLimit)
    else
      withFile context spans path (watch.runTree (opened + 1) context
        (runFileWithin watch context remaining (opened + 1)) spans)

def runFile (watch : Watch) (context : Context) : RunFile :=
  watch.runFileWithin context (context.settings.includeLimit + 1) 0

def executeText (watch : Watch) (context : Context) (text : String) : Run := do
  match Document.ofText context.registry text with
  | .ok tree => watch.runTree 0 context (watch.runFile context) [] tree
  | .error error => throw (.parse error)

def executeFile (watch : Watch) (context : Context) (path : FilePath) : Run :=
  watch.runFile context [] path

def runPlaybook (watch : Watch) (context : Context) (path : FilePath) : Run := do
  Acting.log [] .info "Starting playbook run"
  match ← Acting.attempt (watch.executeFile context path) with
  | .ok () => Acting.log [] .info "Playbook run completed"
  | .error error =>
    Acting.log [] .error "Playbook run failed"
    throw error

def execute (watch : Watch) (context : Context) : Entry → Run
  | .text text => watch.executeText context text
  | .file path => watch.executeFile context path
  | .playbook path => watch.runPlaybook context path

/-! ## An idle watch -/

theorem idle_around (opened : Nat) (run : Run) : idle.around opened run = run := by
  funext s
  change (idle.around opened run).run s = run.run s
  have hmoment (s : Session) : (idle.moment opened).run s = (.ok (), s) := rfl
  rw [around, run_bind_of_ok (hmoment s), run_bind_of_ok (attempt_run run s),
    run_bind_of_ok (hmoment _)]
  rcases run.run s with ⟨_ | _, _⟩ <;> rfl

theorem idle_runElement (opened : Nat) (context : Context) (runFile : RunFile) (tree : Tree)
    (depth : Nat) : idle.runElement opened context runFile tree depth =
      Engine.runElement context runFile tree depth := by
  induction depth with
  | zero => rfl
  | succ depth ih =>
    funext spans slot
    rw [runElement, Engine.runElement]
    simp only [idle_around, ih]
    rfl

theorem idle_runTree (opened : Nat) (context : Context) (runFile : RunFile) (spans : List String)
    (tree : Tree) :
    idle.runTree opened context runFile spans tree = Engine.runTree context runFile spans tree := by
  rw [runTree, idle_around, idle_runElement]
  rfl

theorem idle_runFileWithin (context : Context) (remaining opened : Nat) :
    idle.runFileWithin context remaining opened = Engine.runFileWithin context remaining := by
  induction remaining generalizing opened with
  | zero => rfl
  | succ remaining ih =>
    funext spans path
    have htree : idle.runTree (opened + 1) context (Engine.runFileWithin context remaining) spans =
        Engine.runTree context (Engine.runFileWithin context remaining) spans :=
      funext fun tree ↦ idle_runTree _ _ _ _ tree
    rw [runFileWithin, Engine.runFileWithin_succ, idle_around, ih, htree]

/-- An idle watch leaves every run as it is. -/
theorem idle_execute (context : Context) (entry : Entry) :
    idle.execute context entry = entry.execute context := by
  have hfile : idle.runFile context = Engine.runFile context := idle_runFileWithin context _ _
  cases entry with
  | text text =>
    change idle.executeText context text = Playbook.executeText context text
    rw [executeText, hfile, Playbook.executeText]
    simp only [idle_runTree]
    rfl
  | file path => exact congrFun (congrFun hfile []) path
  | playbook path =>
    change idle.runPlaybook context path = Playbook.runPlaybook context path
    rw [runPlaybook, executeFile, hfile]
    rfl

/-! ## A watch that notices nothing -/

variable {watch : Watch} {context : Context} {opened : Nat} {G : String → Prop}
  {I : Session → Prop} {P Q : ExecutionError → Prop}

theorem around_agree {x y : Run} (hmoment : ∀ s, I s → (watch.moment opened).run s = (.ok (), s))
    (h : AgreeKeeping I Q x y) :
    AgreeKeeping I Q (watch.around opened x) y := by
  intro s hs
  rw [around, run_bind_of_ok (hmoment s hs), run_bind_of_ok (attempt_run x s)]
  rcases h s hs with ⟨⟨⟩, s', hx, hy, hs'⟩ | ⟨error, s', hx, hy, herror, hs'⟩
  · rw [hx, run_bind_of_ok (hmoment s' hs')]
    exact .inl ⟨(), s', rfl, hy, hs'⟩
  · rw [hx, run_bind_of_ok (hmoment s' hs')]
    exact .inr ⟨error, s', rfl, hy, herror, hs'⟩

/-- In a well-formed tree children stand at later slots, so the steps of a run last. -/
theorem runElement_agree (h : Upheld context G I)
    (hmoment : ∀ s, I s → (watch.moment opened).run s = (.ok (), s)) {tree : Tree}
    (hwell : tree.WellFormed context.registry) (hG : ∀ text ∈ tree.leaves, G text) {f g : RunFile}
    (hfile : ∀ spans path, AgreeKeeping I P (f spans path) (g spans path)) (depth : Nat) :
    ∀ slot : Nat, slot < tree.size → tree.size ≤ slot + depth → ∀ spans,
      AgreeKeeping I (·.Arises P) (watch.runElement opened context f tree depth spans slot)
        (Engine.runElement context g tree depth spans slot) := by
  induction depth with
  | zero =>
    intro slot hslot hdepth
    omega
  | succ depth ih =>
    intro slot hslot hdepth spans
    obtain ⟨element, hget⟩ : ∃ element, tree.get? slot = some element :=
      ⟨_, Array.getElem?_eq_getElem hslot⟩
    have hchild : ∀ child : Nat, child ∈ element.block →
        AgreeKeeping I (·.Arises P)
          (watch.runElement opened context f tree depth (spans ++ [element.displayName]) child)
          (Engine.runElement context g tree depth (spans ++ [element.displayName]) child) := by
      intro child hmem
      have hlater : slot < child := hwell.lt_child slot element hget child hmem
      exact ih child (hwell.block_inside slot element hget child hmem) (by omega) _
    have honce := around_agree hmoment (h.runOnce hG hget
      (hwell.sound slot element hget) (spans ++ [element.displayName]) (hfile _) hchild)
    have hguards : ∀ guard ∈ element.guards, G guard := fun guard hmem ↦
      hG guard (Tree.mem_leaves hget (by simp [Element.leaves, hmem]))
    rw [runElement, Engine.runElement, hget]
    refine around_agree hmoment ((h.holds _ hguards).bind fun passed ↦ ?_)
    cases passed with
    | false => exact h.log _ _ _
    | true =>
      simp only [if_true]
      cases hloop : element.loop with
      | none => exact honce
      | some spec =>
        have hspec : ∀ text ∈ spec.leaves, G text := fun text hmem ↦
          hG text (Tree.mem_leaves hget (by simp [Element.leaves, hloop, hmem]))
        refine (h.loopItems hspec).bind fun items ↦ ?_
        exact (h.log _ _ _).bind fun _ ↦ h.runItems items honce

theorem runTree_agree (h : Upheld context G I)
    (hmoment : ∀ s, I s → (watch.moment opened).run s = (.ok (), s)) {tree : Tree}
    (hwell : tree.WellFormed context.registry) (hG : ∀ text ∈ tree.leaves, G text) {f g : RunFile}
    (hfile : ∀ spans path, AgreeKeeping I P (f spans path) (g spans path)) (spans : List String) :
    AgreeKeeping I (·.Arises P) (watch.runTree opened context f spans tree)
      (Engine.runTree context g spans tree) := by
  apply around_agree hmoment
  refine Upheld.runAll fun root hroot ↦ ?_
  have hdepth : tree.size ≤ root + blockDepth tree := by
    rw [blockDepth]
    omega
  have hinside : root < tree.size := hwell.roots_inside root hroot
  exact runElement_agree h hmoment hwell hG hfile _ root hinside hdepth spans

end Watch

end Playbook
