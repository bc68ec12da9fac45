import Playbook.Proofs.Asking
import Playbook.Proofs.Outline.Placement

/-!
# Running a tree is interpreting its outlines

The engine reaches children and the blocks around them through slots. In a tree that holds outlines
the slots of an element lead to the outlines inside it, and a walk upwards meets the blocks around
it, each once, because their slots descend. So a run does what the interpreter does, whatever the
session was before.
-/

namespace Playbook

open Engine

/-! ## The variables of the blocks around an element -/

/-- The blocks around something in `parent`, as a walk upwards meets them: their slots descend. The
variables stand the outermost first. -/
inductive Lineage (tree : Tree) : Option Slot → List Environment → Prop where
  | top : Lineage tree none []
  | inside {slot : Nat} {element : Element} {outer : List Environment}
      (get : tree.get? slot = some element)
      (above : ∀ parent : Nat, element.parent = some parent → parent < slot)
      (lineage : Lineage tree element.parent outer) :
      Lineage tree (some slot) (outer ++ [element.environment])

variable {context : Context} {tree : Tree}

theorem Asks.enterSlot {slot : Slot} {met : List Slot} (h : slot ∉ met) :
    Asks context met (slot :: met) (fun _ ↦ Resolving.enterSlot slot)
      (Pure.pure true) := by
  intro s r hslots hcalls
  refine ⟨.ok true, { r with slots := slot :: r.slots }, ?_, ?_, ?_⟩
  · have hnew : slot ∉ r.slots := hslots ▸ h
    exact (Resolving.enterSlot_run slot r).trans (if_neg hnew)
  · rw [hcalls]
    rfl
  · rintro value -
    rw [hslots]

/-- The walk upwards meets every block around once, and asks nothing. -/
theorem Lineage.ancestors {parent : Option Slot} {outer : List Environment}
    (h : Lineage tree parent outer) : ∀ {steps : Nat} {met : List Slot},
    (∀ slot : Nat, parent = some slot → slot < steps ∧ ∀ other ∈ met, slot < other) →
    ∃ elements after, elements.reverse.map (·.environment) = outer ∧
      Asks context met after (fun _ ↦ tree.ancestors steps parent) (pure elements) := by
  induction h with
  | top =>
    intro steps met hmet
    refine ⟨[], met, rfl, ?_⟩
    rw [Tree.ancestors]
    exact Asks.pure []
  | @inside slot element outer get above lineage ih =>
    intro steps met hmet
    obtain ⟨hsteps, hother⟩ := hmet slot rfl
    obtain ⟨steps, rfl⟩ := Nat.exists_eq_succ_of_ne_zero (Nat.ne_zero_of_lt hsteps)
    have hnew : slot ∉ met := fun hmem ↦ Nat.lt_irrefl slot (hother slot hmem)
    obtain ⟨elements, after, houter, hasks⟩ := @ih steps (slot :: met) fun parent hparent ↦ by
      have hbelow := above parent hparent
      refine ⟨by omega, fun other hmem ↦ ?_⟩
      rcases List.mem_cons.mp hmem with rfl | hmem
      · exact hbelow
      · exact Nat.lt_trans hbelow (hother other hmem)
    refine ⟨element :: elements, after, ?_, ?_⟩
    · rw [List.reverse_cons, List.map_append, houter]
      rfl
    · rw [Tree.ancestors]
      refine (Asks.enterSlot hnew).bind_of_pure ?_
      simp only [get, if_true]
      exact hasks.bind_of_pure (Asks.pure _)

theorem Asks.overlay (inherited : Environment) (elements : List Element) {met : List Slot} :
    Asks context met met (Tree.overlay · inherited elements)
      (Interpreter.inherit context inherited (elements.map (·.environment))) := by
  induction elements generalizing inherited with
  | nil => exact Asks.pure inherited
  | cons element rest ih => exact (Asks.environment element.environment).bind fun own ↦ ih _

/-- Above an element the blocks around it are met, the nearest winning over those further out. -/
theorem Lineage.environment (context : Context) {element : Element} {outer : List Environment}
    {slot : Nat}
    (h : Lineage tree element.parent outer) (hget : tree.get? slot = some element)
    (habove : ∀ parent : Nat, element.parent = some parent → parent < slot) :
    ∃ after, ∀ own, Asks context [] after (tree.resolveEnvironment · slot own) (do
      let inherited ← Interpreter.inherit context ∅ outer
      return inherited.insertMany own.entries) := by
  have hslot := Tree.get?_lt hget
  have hmet : ∀ parent : Nat, element.parent = some parent →
      parent < tree.size + 1 ∧ ∀ other ∈ [slot], parent < other := by
    intro parent hparent
    have hbelow := habove parent hparent
    refine ⟨by omega, fun other hmem ↦ ?_⟩
    rwa [List.mem_singleton.mp hmem]
  obtain ⟨elements, after, rfl, hasks⟩ := h.ancestors hmet
  refine ⟨after, fun own ↦ ?_⟩
  unfold Tree.resolveEnvironment
  refine (Asks.enterSlot List.not_mem_nil).bind_of_pure ?_
  simp only [hget, Option.bind_some, if_true]
  refine hasks.bind_of_pure ?_
  exact (Asks.overlay ∅ elements.reverse).bind fun inherited ↦ Asks.pure _

/-! ## Running one element -/

theorem because_bind {ε ε' α β : Type} (wrap : ε → ε') (x : Acting ε α) (f : α → Acting ε β) :
    Acting.because wrap (x >>= f) =
      Acting.because wrap x >>= fun value ↦ Acting.because wrap (f value) := by
  funext s
  change (Acting.because wrap (x >>= f)).run s = (Acting.because wrap x >>= _).run s
  have hwrap := because_run wrap x s
  rw [because_run]
  rcases hx : x.run s with ⟨result, s'⟩
  rw [hx] at hwrap
  cases result with
  | error error => rw [run_bind_of_error hx, run_bind_of_error hwrap]; rfl
  | ok value => rw [run_bind_of_ok hx, run_bind_of_ok hwrap, because_run]

theorem bind_eq_bind {ε α β : Type} {x y : Acting ε α} {f g : α → Acting ε β} (hxy : x = y)
    (hfg : ∀ value, f value = g value) : x >>= f = y >>= g := by
  subst hxy
  exact bind_congr hfg

theorem dispatch_eq (runFile : RunFile) (spans : List String) (heading : Heading)
    (block : List Slot) (parent : Option Slot) (environment : Environment) :
    dispatch context runFile spans (heading.element block parent) environment =
      Interpreter.perform context runFile spans heading environment := by
  have htask : (heading.element block parent).task = heading.task := rfl
  have hregister : (heading.element block parent).register = heading.register := rfl
  have hignore : (heading.element block parent).ignoreErrors = heading.ignoreErrors := rfl
  unfold dispatch Interpreter.perform
  rw [htask, Heading.element_displayName]
  cases heading.task with
  | none => rfl
  | some invocation =>
    dsimp only
    cases context.registry.find invocation.kind with
    | error error => rfl
    | ok kind =>
      refine bind_congr fun _ ↦ bind_congr fun _ ↦ ?_
      cases Task.init kind ⟨some invocation, environment⟩ with
      | error error => rfl
      | ok task =>
        simp only [runTask, store, bind_assoc, hregister, hignore]
        refine bind_congr fun _ ↦ bind_congr fun result ↦ ?_
        cases result with
        | ok output =>
          cases output <;> cases heading.register <;> rfl
        | error error =>
          cases heading.ignoreErrors <;> cases heading.register <;> rfl

theorem holds_eq (spans guards : List String) :
    holds context spans guards = Interpreter.passes context spans guards := by
  have hask (guard : String) : Acting.resolving context (Resolving.text · guard) =
      Acting.ask context guard := (Asks.text guard).resolving_eq
  induction guards with
  | nil => rfl
  | cons guard rest ih =>
    rw [holds, Interpreter.passes, hask]
    refine bind_congr fun result ↦ ?_
    cases result with
    | error error => rfl
    | ok answer =>
      by_cases hfalse : answer = "false"
      · subst hfalse
        rfl
      · simp only [hfalse, if_false]
        exact ih

theorem loopItems_eq (loop : LoopSpec) :
    loopItems context loop = Interpreter.items context loop := by
  have hask : Acting.resolving context (loop.resolve ·) = loop.ask context :=
    (Asks.loop loop).resolving_eq
  rw [loopItems, Interpreter.items]
  refine bind_eq_bind (congrArg (Acting.because ExecutionError.resolve) hask) fun resolved ↦ ?_
  cases resolved <;> rfl

theorem runItems_eq (once : Run) (values : List Json) :
    runItems once values = Interpreter.forEach once values := by
  induction values with
  | nil => rfl
  | cons item rest ih =>
    rw [runItems, Interpreter.forEach, ih]
    refine bind_congr fun _ ↦ bind_congr fun result ↦ bind_congr fun _ ↦ ?_
    cases result <;> rfl

theorem because_pure {ε ε' α : Type} (wrap : ε → ε') (value : α) :
    Acting.because wrap (pure value) = pure value := rfl

/-- A block runs what is inside; its own strings are asked for before that. -/
theorem runOnce_block (runFile : RunFile) (child : Slot → Run) (spans : List String) (slot : Slot)
    (heading : Heading) {block : List Slot} (hblock : block ≠ []) (parent : Option Slot)
    (outer : List Environment) :
    runOnce context runFile tree child spans slot (heading.element block parent) =
      Interpreter.single context runFile spans outer heading (some (runAll child block)) := by
  have hisBlock (resolved : Heading) : (resolved.element block parent).isBlock = true := by
    simpa [Element.isBlock, Heading.element] using hblock
  have hask : Asks context [] [] (snapshot tree slot (heading.element block parent)) (do
      let resolved ← heading.ask context
      return (resolved.element block parent, ∅)) := by
    unfold snapshot
    refine (Asks.element heading block parent).bind_map fun resolved ↦ ?_
    simp only [hisBlock, if_true]
    exact Asks.pure _
  rw [runOnce, Interpreter.single, hask.resolving_eq, because_bind, bind_assoc]
  refine bind_congr fun resolved ↦ ?_
  rw [because_pure, pure_bind]
  simp only [hisBlock, if_true]
  rfl

/-- A task gets the variables of the blocks around it under its own. -/
theorem runOnce_task (runFile : RunFile) (child : Slot → Run) (spans : List String) {slot : Nat}
    {heading : Heading} {parent : Option Slot} {outer : List Environment}
    (hget : tree.get? slot = some (heading.element [] parent))
    (hlineage : Lineage tree parent outer)
    (habove : ∀ above : Nat, parent = some above → above < slot) :
    runOnce context runFile tree child spans slot (heading.element [] parent) =
      Interpreter.single context runFile spans outer heading none := by
  have hisBlock (resolved : Heading) : (resolved.element [] parent).isBlock = false := rfl
  obtain ⟨after, henvironment⟩ := Lineage.environment context hlineage hget habove
  have hask : Asks context [] after (snapshot tree slot (heading.element [] parent)) (do
      let resolved ← heading.ask context
      let inherited ← Interpreter.inherit context ∅ outer
      return (resolved.element [] parent,
        inherited.insertMany resolved.environment.entries)) := by
    unfold snapshot
    refine (Asks.element heading [] parent).bind_map fun resolved ↦ ?_
    simp only [hisBlock, Bool.false_eq_true, if_false]
    exact (henvironment _).bind_map fun inherited ↦ Asks.pure _
  rw [runOnce, Interpreter.single, hask.resolving_eq, because_bind, bind_assoc]
  refine bind_congr fun resolved ↦ ?_
  rw [because_bind, bind_assoc]
  refine bind_congr fun inherited ↦ ?_
  rw [because_pure, pure_bind]
  simp only [hisBlock, Bool.false_eq_true, if_false]
  exact dispatch_eq runFile spans resolved [] parent _

/-! ## Running a tree -/

namespace Outline

/-- An element is run once as its heading says, given what running its children is. -/
theorem runOnce_eq (context : Context) (runFile : RunFile) {child : Slot → Run}
    (spans : List String) {slot : Nat} {heading : Heading} {first : Slot}
    {children : List Outline} {parent : Option Slot} {outer : List Environment} {inside : Run}
    (hget : tree.get? slot = some (heading.element (slots first children) parent))
    (hlineage : Lineage tree parent outer)
    (habove : ∀ above : Nat, parent = some above → above < slot)
    (hinside : runAll child (slots first children) = inside) :
    runOnce context runFile tree child spans slot
        (heading.element (slots first children) parent) =
      Interpreter.single context runFile spans outer heading
        (if children.isEmpty then none else some inside) := by
  cases children with
  | nil => exact runOnce_task runFile child spans hget hlineage habove
  | cons outline rest =>
    subst hinside
    exact runOnce_block runFile child spans slot heading (List.cons_ne_nil _ _) parent outer

mutual

/-- Running the slot of an outline interprets it. The steps of the run are enough for all levels
inside, and the blocks around stand at earlier slots. -/
theorem StandsAt.runElement_eq (runFile : RunFile) : {outline : Outline} →
    {parent : Option Slot} → {slot : Nat} → outline.StandsAt tree parent slot →
    ∀ {outer : List Environment}, Lineage tree parent outer →
    (∀ above : Nat, parent = some above → above < slot) →
    ∀ {depth : Nat}, outline.size ≤ depth → ∀ spans,
    runElement context runFile tree depth spans slot =
      Interpreter.interpret context runFile spans outer outline
  | .element heading replaced children, parent, slot, h, outer, hlineage, habove, 0, hdepth,
      spans => by
    have hpos := (Outline.element heading replaced children).size_pos
    omega
  | .element heading replaced children, parent, slot, h, outer, hlineage, habove, depth + 1,
      hdepth, spans => by
    have hget : tree.get? slot = some
        (heading.element (slots (slot + 1 + sizeAll replaced) children) parent) := h.get?
    have hchildren : StandAllAt tree (some slot) (slot + 1 + sizeAll replaced) children :=
      h.children
    have hinside : Lineage tree (some slot) (outer ++ [heading.environment]) :=
      .inside hget habove hlineage
    have hlater : ∀ above : Nat, some slot = some above → above < slot + 1 + sizeAll replaced := by
      intro above hparent
      obtain rfl := Option.some.inj hparent
      omega
    have hdepth' : sizeAll children ≤ depth := by
      rw [size] at hdepth
      omega
    have hrun := hchildren.runAll_eq runFile hinside hlater hdepth'
      (spans ++ [heading.displayName])
    have hsingle := runOnce_eq context runFile (spans ++ [heading.displayName]) hget hlineage habove
      hrun
    unfold runElement
    rw [hget, Interpreter.interpret, Interpreter.element]
    dsimp only
    rw [Heading.element_displayName, hsingle, holds_eq]
    refine bind_congr fun passed ↦ ?_
    cases passed with
    | false => rfl
    | true =>
      simp only [if_true, loopItems_eq, runItems_eq]
      rfl

theorem StandAllAt.runAll_eq (runFile : RunFile) : {outlines : List Outline} →
    {parent : Option Slot} → {slot : Nat} → StandAllAt tree parent slot outlines →
    ∀ {outer : List Environment}, Lineage tree parent outer →
    (∀ above : Nat, parent = some above → above < slot) →
    ∀ {depth : Nat}, sizeAll outlines ≤ depth → ∀ spans,
    runAll (runElement context runFile tree depth spans) (slots slot outlines) =
      Interpreter.interpretAll context runFile spans outer outlines
  | [], _, _, _, _, _, _, _, _, _ => rfl
  | outline :: rest, parent, slot, h, outer, hlineage, habove, depth, hdepth, spans => by
    rw [sizeAll] at hdepth
    have hhead := h.head.runElement_eq runFile hlineage habove
      (Nat.le_trans (Nat.le_add_right _ _) hdepth) spans
    have htail := h.tail.runAll_eq runFile hlineage
      (fun above hparent ↦ Nat.lt_of_lt_of_le (habove above hparent) (Nat.le_add_right _ _))
      (Nat.le_trans (Nat.le_add_left _ _) hdepth) spans
    rw [slots, runAll, Interpreter.interpretAll, hhead, htail]

end

end Outline

/-- A run follows blocks as deep as any document nests them. -/
theorem runTree_eq (context : Context) (runFile : RunFile) (spans : List String)
    (outlines : List Outline) :
    runTree context runFile spans (Outline.tree outlines) =
      Interpreter.interpretAll context runFile spans [] outlines := by
  have hdepth : Outline.sizeAll outlines ≤ blockDepth (Outline.tree outlines) := by
    rw [blockDepth, Outline.size_tree]
    exact Nat.le_add_right _ _
  exact (Outline.standAllAt_tree outlines).runAll_eq runFile .top nofun hdepth spans

/-! ## Running files and texts -/

theorem loadTree_eq (path : FilePath) : loadTree context path = (do
    let outlines ← Interpreter.load context path
    return Outline.tree outlines) := by
  rw [loadTree, Interpreter.load, bind_assoc]
  refine bind_congr fun text ↦ ?_
  rw [Outline.ofText_eq_tree]
  cases Outline.ofText context.registry text <;> rfl

/-- Files are run as they are interpreted, as long as the files inside them are. -/
theorem runFileWithin_eq (remaining : Nat) :
    runFileWithin context remaining = Interpreter.interpretFileWithin context remaining := by
  induction remaining with
  | zero => rfl
  | succ remaining ih =>
    funext spans path
    rw [runFileWithin, Interpreter.interpretFileWithin, ih]
    refine bind_congr fun s ↦ ?_
    split
    · rfl
    · refine bind_congr fun _ ↦ ?_
      rw [loadTree_eq, because_bind, bind_assoc]
      refine bind_congr fun outlines ↦ ?_
      rw [because_pure, pure_bind]
      refine bind_congr fun _ ↦ bind_congr fun _ ↦ ?_
      have hrun := runTree_eq context (Interpreter.interpretFileWithin context remaining) spans
        outlines
      refine bind_eq_bind (congrArg Acting.attempt hrun) fun result ↦ bind_congr fun _ ↦ ?_
      cases result <;> rfl

/-- Running a playbook text through the slots of its tree is interpreting its elements: the result
is the same, and so is everything in the session afterwards, with the steps of tasks and the calls
of the resolver in order. -/
theorem executeText_eq_interpretText (context : Context) (text : String) :
    executeText context text = Interpreter.interpretText context text := by
  rw [executeText, Interpreter.interpretText, Outline.ofText_eq_tree]
  cases Outline.ofText context.registry text with
  | error error => rfl
  | ok outlines =>
    have hfile : runFile context = Interpreter.interpretFile context := runFileWithin_eq _
    change executeTree context (Outline.tree outlines) = _
    rw [executeTree, runTree_eq, hfile]

end Playbook
