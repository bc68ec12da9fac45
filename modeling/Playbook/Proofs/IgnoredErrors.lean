import Playbook.Proofs.Leaves
import Playbook.Proofs.Refinement
import Playbook.Template.Engine

/-!
# Ignored errors

Whether the errors of an element are ignored is looked at in one place only, when its task has
failed. So a run that succeeds goes the same way when the errors of more elements are ignored: no
error was there that could be. A block has no task, and what it says of errors changes nothing in
any run.
-/

namespace Playbook

open Engine

/-! ## Other marks -/

/-- The element with its errors ignored or not. -/
def Element.ignoring (element : Element) (ignoreErrors : Bool) : Element :=
  { element with ignoreErrors }

namespace Tree

/-- The tree in which `ignores` tells whose errors are ignored. -/
def ignoring (tree : Tree) (ignores : Slot → Element → Bool) : Tree :=
  { tree with
    elements := tree.elements.mapIdx fun slot element ↦ element.ignoring (ignores slot element) }

/-- The errors of the chosen elements are ignored as well. -/
def ignoringAlso (tree : Tree) (chosen : Slot → Bool) : Tree :=
  tree.ignoring fun slot element ↦ element.ignoreErrors || chosen slot

/-- The blocks say of errors what they are told. -/
def markingBlocks (tree : Tree) (marks : Slot → Bool) : Tree :=
  tree.ignoring fun slot element ↦ if element.isBlock then marks slot else element.ignoreErrors

variable (tree : Tree) (ignores : Slot → Element → Bool)

theorem get?_ignoring (slot : Slot) :
    (tree.ignoring ignores).get? slot =
      (tree.get? slot).map fun element ↦ element.ignoring (ignores slot element) :=
  Array.getElem?_mapIdx

@[simp] theorem size_ignoring : (tree.ignoring ignores).size = tree.size :=
  Array.size_mapIdx

end Tree

/-! ## Resolving is not concerned -/

theorem Element.resolve_ignoring (scope : Scope) (element : Element) (ignoreErrors : Bool) :
    (element.ignoring ignoreErrors).resolve scope =
      (·.ignoring ignoreErrors) <$> element.resolve scope := by
  simp only [Element.resolve, map_bind, map_pure]
  rfl

theorem Tree.overlay_congr (scope : Scope) (environment : Environment) {first second : List Element}
    (h : first.map (·.environment) = second.map (·.environment)) :
    overlay scope environment first = overlay scope environment second := by
  induction first generalizing second environment with
  | nil =>
    have hnil : second = [] := List.map_eq_nil_iff.mp h.symm
    rw [hnil]
  | cons element rest ih =>
    cases second with
    | nil => cases h
    | cons other others =>
      have hfirst : element.environment = other.environment := (List.cons.inj h).1
      have hrest : rest.map (·.environment) = others.map (·.environment) := (List.cons.inj h).2
      rw [overlay, overlay, hfirst]
      apply bind_congr
      intro own
      exact ih _ hrest

/-- Of the elements around a slot only the variables count, so their marks do not. -/
theorem Tree.ancestors_ignoring_bind (tree : Tree) (ignores : Slot → Element → Bool) {α : Type}
    (steps : Nat) (parent : Option Slot) (next : List Element → Resolving α)
    (hnext : ∀ first second, first.map (·.environment) = second.map (·.environment) →
      next first = next second) :
    (tree.ignoring ignores).ancestors steps parent >>= next =
      tree.ancestors steps parent >>= next := by
  induction steps generalizing parent next with
  | zero => cases parent <;> rfl
  | succ steps ih =>
    cases parent with
    | none => rfl
    | some slot =>
      rw [ancestors, ancestors, bind_assoc, bind_assoc]
      apply bind_congr
      intro isNew
      cases isNew with
      | false => rfl
      | true =>
        simp only [if_true]
        rw [tree.get?_ignoring]
        cases tree.get? slot with
        | none => rfl
        | some element =>
          simp only [Option.map_some, bind_assoc, pure_bind]
          have hhead (above : List Element) :
              next (element.ignoring (ignores slot element) :: above) = next (element :: above) :=
            hnext _ _ rfl
          simp only [hhead]
          apply ih
          intro first second h
          exact hnext _ _ (congrArg (element.environment :: ·) h)

theorem Tree.resolveEnvironment_ignoring (tree : Tree) (ignores : Slot → Element → Bool)
    (scope : Scope) (slot : Slot) (own : Environment) :
    (tree.ignoring ignores).resolveEnvironment scope slot own =
      tree.resolveEnvironment scope slot own := by
  have hparent : ((tree.ignoring ignores).get? slot).bind (·.parent) =
      (tree.get? slot).bind (·.parent) := by
    rw [tree.get?_ignoring]
    cases tree.get? slot <;> rfl
  rw [resolveEnvironment, resolveEnvironment, hparent, tree.size_ignoring]
  apply bind_congr
  intro isNew
  cases isNew with
  | false => rfl
  | true =>
    simp only [if_true]
    apply tree.ancestors_ignoring_bind
    intro first second h
    have hreverse : first.reverse.map (·.environment) = second.reverse.map (·.environment) := by
      rw [List.map_reverse, List.map_reverse, h]
    rw [overlay_congr scope ∅ hreverse]

/-- A snapshot shows the mark of its element and no other. -/
theorem Engine.snapshot_ignoring (tree : Tree) (ignores : Slot → Element → Bool) (slot : Slot)
    (element : Element) (ignoreErrors : Bool) (scope : Scope) :
    snapshot (tree.ignoring ignores) slot (element.ignoring ignoreErrors) scope =
      (fun found ↦ (found.1.ignoring ignoreErrors, found.2)) <$>
        snapshot tree slot element scope := by
  simp only [snapshot, Element.resolve_ignoring, bind_map_left, map_bind]
  apply bind_congr
  intro resolved
  have hblock : (resolved.ignoring ignoreErrors).isBlock = resolved.isBlock := rfl
  have henvironment : (resolved.ignoring ignoreErrors).environment = resolved.environment := rfl
  rw [hblock, henvironment]
  split
  · rfl
  · rw [tree.resolveEnvironment_ignoring, map_bind]
    rfl

theorem Acting.resolving_map {α β : Type} (context : Context) (form : α → β)
    (resolve : Scope → Resolving α) :
    Acting.resolving context (fun scope ↦ form <$> resolve scope) =
      form <$> Acting.resolving context resolve := by
  funext s
  change (Acting.resolving context _).run s = (form <$> Acting.resolving context resolve).run s
  have hrun := resolving_run context resolve s
  rw [resolving_run, ← bind_pure_comp, ← bind_pure_comp]
  rcases hresolve : (resolve ⟨context.resolver, s.facts⟩).run (.start s.journal.calls) with
    ⟨result, r⟩
  rw [hresolve] at hrun
  cases result with
  | error error => rw [run_bind_of_error hresolve, run_bind_of_error hrun]
  | ok value =>
    rw [run_bind_of_ok hresolve, run_bind_of_ok hrun]
    rfl

/-! ## Runs of trees with other marks -/

/-- A relation of computations that is kept when they are put together as the engine does it. What
comes later needs to be related only for values with which the second computation ends. -/
structure Acting.Compatible
    (R : {α : Type} → Acting ExecutionError α → Acting ExecutionError α → Prop) : Prop where
  refl : ∀ {α : Type} (x : Acting ExecutionError α), R x x
  bind : ∀ {α β : Type} {x y : Acting ExecutionError α} {f g : α → Acting ExecutionError β},
    R x y → (∀ s value s', x.run s = (.ok value, s') → R (f value) (g value)) →
    R (x >>= f) (y >>= g)
  items : ∀ {once once' : Run} (values : List Json), R once once' →
    R (runItems once values) (runItems once' values)

namespace Engine

variable {R : {α : Type} → Acting ExecutionError α → Acting ExecutionError α → Prop}
  {context : Context} {tree : Tree} {ignores : Slot → Element → Bool}

/-- Other marks are related in every task of the tree. -/
def TasksRelated (R : {α : Type} → Acting ExecutionError α → Acting ExecutionError α → Prop)
    (context : Context) (tree : Tree) (ignores : Slot → Element → Bool) : Prop :=
  ∀ runFile spans slot element resolved environment, tree.get? slot = some element →
    element.SameShape resolved → resolved.isBlock = false →
    R (dispatch context runFile spans resolved environment)
      (dispatch context runFile spans (resolved.ignoring (ignores slot element)) environment)

/-- A snapshot of an element keeps its shape. -/
theorem sameShape_of_snapshot {slot : Slot} {element resolved : Element} {environment : Environment}
    {s s' : Session}
    (h : (Acting.because ExecutionError.resolve
      (Acting.resolving context (snapshot tree slot element))).run s =
        (.ok (resolved, environment), s')) : element.SameShape resolved := by
  have hgives : Resolving.Gives (fun _ ↦ True)
      (snapshot tree slot element ⟨context.resolver, s.facts⟩)
      fun found ↦ element.SameShape found.1 :=
    snapshot_gives _ (fun _ _ ↦ trivial) slot fun _ _ ↦ trivial
  rw [because_run, resolving_run] at h
  have hresult := (hgives (.start s.journal.calls)).2
  rcases hrun : (snapshot tree slot element ⟨context.resolver, s.facts⟩).run
    (.start s.journal.calls) with ⟨_ | found, r⟩
  · rw [hrun] at h
    cases h
  · rw [hrun] at h hresult
    cases h
    exact hresult _ rfl

theorem runAll_related (hR : Acting.Compatible R) {run run' : Slot → Run}
    (h : ∀ slot, R (run slot) (run' slot)) (slots : List Slot) :
    R (runAll run slots) (runAll run' slots) := by
  induction slots with
  | nil => exact hR.refl _
  | cons slot rest ih =>
    apply hR.bind (h slot)
    intro s value s' hrun
    exact ih

theorem runOnce_related (hR : Acting.Compatible R) (htasks : TasksRelated R context tree ignores)
    (runFile : RunFile) {child child' : Slot → Run} (hchild : ∀ slot, R (child slot) (child' slot))
    (spans : List String) {slot : Slot} {element : Element} (hget : tree.get? slot = some element) :
    R (runOnce context runFile tree child spans slot element)
      (runOnce context runFile (tree.ignoring ignores) child' spans slot
        (element.ignoring (ignores slot element))) := by
  have hsnapshot : Acting.because ExecutionError.resolve (Acting.resolving context
        (snapshot (tree.ignoring ignores) slot (element.ignoring (ignores slot element)))) =
      Acting.because ExecutionError.resolve
          (Acting.resolving context (snapshot tree slot element)) >>= fun found ↦
        pure (found.1.ignoring (ignores slot element), found.2) := by
    have heq : snapshot (tree.ignoring ignores) slot (element.ignoring (ignores slot element)) =
        fun scope ↦ (fun found ↦ (found.1.ignoring (ignores slot element), found.2)) <$>
          snapshot tree slot element scope := by
      funext scope
      exact snapshot_ignoring tree ignores slot element _ scope
    rw [heq, Acting.resolving_map, ← bind_pure_comp, because_bind]
    rfl
  rw [runOnce, runOnce, hsnapshot, bind_assoc]
  apply hR.bind (hR.refl _)
  rintro s ⟨resolved, environment⟩ s' hrun
  have hshape := sameShape_of_snapshot hrun
  have hisBlock : (resolved.ignoring (ignores slot element)).isBlock = resolved.isBlock := rfl
  simp only [pure_bind, hisBlock]
  cases hblock : resolved.isBlock with
  | true => exact runAll_related hR hchild resolved.block
  | false => exact htasks runFile spans slot element resolved environment hget hshape hblock

theorem runElement_related (hR : Acting.Compatible R) (htasks : TasksRelated R context tree ignores)
    (runFile : RunFile) (depth : Nat) (spans : List String) (slot : Slot) :
    R (runElement context runFile tree depth spans slot)
      (runElement context runFile (tree.ignoring ignores) depth spans slot) := by
  induction depth generalizing spans slot with
  | zero => exact hR.refl _
  | succ depth ih =>
    rw [runElement, runElement, tree.get?_ignoring]
    cases hget : tree.get? slot with
    | none => exact hR.refl _
    | some element =>
      -- The mark shows in no name, guard or loop.
      have hname : (element.ignoring (ignores slot element)).displayName = element.displayName :=
        rfl
      have hguards : (element.ignoring (ignores slot element)).guards = element.guards := rfl
      have hloop : (element.ignoring (ignores slot element)).loop = element.loop := rfl
      simp only [Option.map_some, hname, hguards, hloop]
      have honce := runOnce_related hR htasks runFile
        (ih (spans ++ [element.displayName])) (spans ++ [element.displayName]) hget
      apply hR.bind (hR.refl _)
      intro s passes s' hholds
      cases passes with
      | false =>
        simp only [Bool.false_eq_true, if_false]
        exact hR.refl _
      | true =>
        simp only [if_true]
        cases element.loop with
        | none => exact honce
        | some spec =>
          apply hR.bind (hR.refl _)
          intro s items s' hitems
          apply hR.bind (hR.refl _)
          intro s value s' hlog
          exact hR.items items honce

end Engine

theorem executeTree_related
    {R : {α : Type} → Acting ExecutionError α → Acting ExecutionError α → Prop}
    (hR : Acting.Compatible R) {context : Context} {tree : Tree} {ignores : Slot → Element → Bool}
    (htasks : TasksRelated R context tree ignores) :
    R (executeTree context tree) (executeTree context (tree.ignoring ignores)) := by
  have hdepth : blockDepth (tree.ignoring ignores) = blockDepth tree := by
    rw [blockDepth, tree.size_ignoring, blockDepth]
  rw [executeTree, executeTree, runTree, runTree, hdepth]
  apply runAll_related hR
  intro slot
  exact runElement_related hR htasks _ _ _ slot

/-! ## Equal runs, and runs that go through -/

theorem Acting.compatible_eq : Acting.Compatible Eq where
  refl _ := rfl
  bind {_ _ x y f g} h hnext := by
    subst h
    funext s
    change (x >>= f).run s = (x >>= g).run s
    rcases hrun : x.run s with ⟨_ | value, s'⟩
    · rw [run_bind_of_error hrun, run_bind_of_error hrun]
    · rw [run_bind_of_ok hrun, run_bind_of_ok hrun, hnext s value s' hrun]
  items values h := by rw [h]

namespace Engine

variable {once : Run} {item : Json} {rest : List Json} {s after : Session}

theorem runItems_of_ok (h : once.run (s.setFact Facts.loopItem item) = (.ok (), after)) :
    (runItems once (item :: rest)).run s =
      (runItems once rest).run (after.removeFact Facts.loopItem) := by
  have hbound : (modify (·.setFact Facts.loopItem item) : Run).run s =
      (.ok (), s.setFact Facts.loopItem item) := rfl
  have htried : (Acting.attempt once : Acting ExecutionError (Except ExecutionError Unit)).run
      (s.setFact Facts.loopItem item) = (.ok (.ok ()), after) := by
    rw [attempt_run, h]
  have hunbound : (modify (·.removeFact Facts.loopItem) : Run).run after =
      (.ok (), after.removeFact Facts.loopItem) := rfl
  rw [runItems, run_bind_of_ok hbound, run_bind_of_ok htried, run_bind_of_ok hunbound]

theorem runItems_of_error {error : ExecutionError}
    (h : once.run (s.setFact Facts.loopItem item) = (.error error, after)) :
    (runItems once (item :: rest)).run s = (.error error, after.removeFact Facts.loopItem) := by
  have hbound : (modify (·.setFact Facts.loopItem item) : Run).run s =
      (.ok (), s.setFact Facts.loopItem item) := rfl
  have htried : (Acting.attempt once : Acting ExecutionError (Except ExecutionError Unit)).run
      (s.setFact Facts.loopItem item) = (.ok (.error error), after) := by
    rw [attempt_run, h]
  have hunbound : (modify (·.removeFact Facts.loopItem) : Run).run after =
      (.ok (), after.removeFact Facts.loopItem) := rfl
  rw [runItems, run_bind_of_ok hbound, run_bind_of_ok htried, run_bind_of_ok hunbound]
  rfl

end Engine

/-- Wherever the first computation ends well, the second ends as it does. -/
def Acting.GoesAlong {ε α : Type} (x y : Acting ε α) : Prop :=
  ∀ s value s', x.run s = (.ok value, s') → y.run s = (.ok value, s')

namespace Acting.GoesAlong

variable {ε α β : Type} {x y : Acting ε α}

theorem of_throw (error : ε) : GoesAlong (throw error) y := by
  intro s value s' h
  cases h

protected theorem bind {f g : α → Acting ε β} (h : GoesAlong x y)
    (hnext : ∀ s value s', x.run s = (.ok value, s') → GoesAlong (f value) (g value)) :
    GoesAlong (x >>= f) (y >>= g) := by
  intro s value s' hrun
  rcases hx : x.run s with ⟨_ | first, between⟩
  · rw [run_bind_of_error hx] at hrun
    cases hrun
  · rw [run_bind_of_ok hx] at hrun
    rw [run_bind_of_ok (h s first between hx)]
    exact hnext s first between hx between value s' hrun

/-- Items are bound and unbound alike, and the first error ends the items of both. -/
theorem items {once once' : Run} (h : GoesAlong once once') (values : List Json) :
    GoesAlong (runItems once values) (runItems once' values) := by
  induction values with
  | nil => exact fun _ _ _ hrun ↦ hrun
  | cons item rest ih =>
    intro s value s' hrun
    rcases honce : once.run (s.setFact Facts.loopItem item) with ⟨_ | done, between⟩
    · rw [runItems_of_error honce] at hrun
      cases hrun
    · rw [runItems_of_ok honce] at hrun
      rw [runItems_of_ok (h _ done between honce)]
      exact ih _ value s' hrun

theorem compatible : Acting.Compatible fun {_} ↦ GoesAlong where
  refl _ := fun _ _ _ hrun ↦ hrun
  bind := GoesAlong.bind
  items values h := items h values

end Acting.GoesAlong

namespace Engine

/-- A failure that was not ignored ends the run; it may be ignored instead. -/
theorem runTask_goesAlong (context : Context) (runFile : RunFile) (spans : List String)
    (element : Element) (more : Bool) (kind : String) (task : Task) :
    (runTask context runFile spans element kind task).GoesAlong
      (runTask context runFile spans (element.ignoring (element.ignoreErrors || more)) kind
        task) := by
  have hR := Acting.GoesAlong.compatible
  apply hR.bind (hR.refl _)
  intro s event s' hnote
  apply hR.bind (hR.refl _)
  intro s result s' hrun
  cases result with
  | ok output => exact hR.refl _
  | error error =>
    cases hignores : element.ignoreErrors with
    | false => exact Acting.GoesAlong.of_throw _
    | true =>
      have hmore : (element.ignoring (true || more)).ignoreErrors = true := rfl
      simp only [hmore, if_true]
      exact hR.refl _

theorem dispatch_goesAlong (context : Context) (runFile : RunFile) (spans : List String)
    (element : Element) (more : Bool) (environment : Environment) :
    (dispatch context runFile spans element environment).GoesAlong
      (dispatch context runFile spans (element.ignoring (element.ignoreErrors || more))
        environment) := by
  have hR := Acting.GoesAlong.compatible
  have htask : (element.ignoring (element.ignoreErrors || more)).task = element.task := rfl
  have hname : (element.ignoring (element.ignoreErrors || more)).displayName =
      element.displayName := rfl
  rw [dispatch, dispatch, htask, hname]
  cases element.task with
  | none => exact hR.refl _
  | some invocation =>
    dsimp only
    cases context.registry.find invocation.kind with
    | error error => exact hR.refl _
    | ok kind =>
      apply hR.bind (hR.refl _)
      intro s value s' hlog
      apply hR.bind (hR.refl _)
      intro s value s' hnote
      cases Task.init kind ⟨some invocation, environment⟩ with
      | error error => exact hR.refl _
      | ok task =>
        apply hR.bind (runTask_goesAlong context runFile spans element more invocation.kind task)
        intro s output s' hrun
        exact hR.refl _

end Engine

/-- Ignoring errors changes no run that succeeds: it succeeds again, and with the same session in
the end, which is the same facts, steps of tasks, calls of the resolver, log and files. What blocks
say of errors changes no run at all. -/
theorem executeTree_ignoring (context : Context) (tree : Tree) :
    (∀ chosen s s', (executeTree context tree).run s = (.ok (), s') →
      (executeTree context (tree.ignoringAlso chosen)).run s = (.ok (), s')) ∧
    ∀ marks, executeTree context (tree.markingBlocks marks) = executeTree context tree := by
  constructor
  · intro chosen s s' hrun
    have htasks : TasksRelated (fun {_} ↦ Acting.GoesAlong) context tree fun slot element ↦
        element.ignoreErrors || chosen slot := by
      intro runFile spans slot element resolved environment hget hshape hblock
      have hmark : (element.ignoreErrors || chosen slot) =
          (resolved.ignoreErrors || chosen slot) := by
        rw [hshape.ignoreErrors]
      dsimp only
      rw [hmark]
      exact dispatch_goesAlong context runFile spans resolved (chosen slot) environment
    exact executeTree_related Acting.GoesAlong.compatible htasks s () s' hrun
  · intro marks
    have htasks : TasksRelated Eq context tree fun slot element ↦
        if element.isBlock then marks slot else element.ignoreErrors := by
      intro runFile spans slot element resolved environment hget hshape hblock
      have helement : element.isBlock = false := by
        rw [← hblock, Element.isBlock, Element.isBlock, hshape.block]
      dsimp only
      rw [helement, ← hshape.ignoreErrors]
      rfl
    exact (executeTree_related Acting.compatible_eq htasks).symm

/-- A loop in which one task fails and is ignored, and another registers its output. -/
def failingText : String :=
  "- block:\n  - fail: \x7b\x7d\n    ignore_errors: true\n  - echo: \x7bmsg: m\x7d\n" ++
    "    register: a\n  loop: \x7bitems: [1, 2]\x7d\n- set_fact: \x7bb: y\x7d\n"

/-- The text of a fact. -/
def Session.factText? (s : Session) (name : String) : Option String :=
  match s.facts.get? name with
  | some (.str text) => some text
  | _ => none

/-- The errors of all elements of the text may be ignored, also those of its block. -/
theorem executeTree_ignoring_failing : ∃ registry tree s',
    Registry.ofKinds (TaskKind.standard ++ TaskKind.observers) = .ok registry ∧
      Document.ofText registry failingText = .ok tree ∧
      (executeTree ⟨.standard, registry, Template.resolver, ∅⟩ tree).run
        (.start .standard (.initial [])) = (.ok (), s') ∧
      s'.factText? "a" = some "m" ∧
      (executeTree ⟨.standard, registry, Template.resolver, ∅⟩
        (tree.ignoringAlso fun _ ↦ true)).run (.start .standard (.initial [])) = (.ok (), s') ∧
      executeTree ⟨.standard, registry, Template.resolver, ∅⟩
        (tree.markingBlocks fun _ ↦ true) =
        executeTree ⟨.standard, registry, Template.resolver, ∅⟩ tree := by
  let context (registry : Registry) : Context := ⟨.standard, registry, Template.resolver, ∅⟩
  let ended (registry : Registry) (tree : Tree) :=
    (executeTree (context registry) tree).run (.start .standard (.initial []))
  have hruns : ∃ registry,
      Registry.ofKinds (TaskKind.standard ++ TaskKind.observers) = .ok registry ∧
      ((Document.ofText registry failingText).toOption.any fun tree ↦
        (ended registry tree).1.isOk && (ended registry tree).2.factText? "a" == some "m") =
          true := by
    refine ⟨_, rfl, ?_⟩
    decide +kernel
  obtain ⟨registry, hregistry, hrun⟩ := hruns
  cases htree : Document.ofText registry failingText with
  | error error =>
    rw [htree] at hrun
    cases hrun
  | ok tree =>
    rw [htree] at hrun
    obtain ⟨hok, hfact⟩ := Bool.and_eq_true_iff.mp hrun
    rcases hended : ended registry tree with ⟨_ | _, s'⟩
    · rw [hended] at hok
      cases hok
    · rw [hended] at hfact
      obtain ⟨halso, hblocks⟩ := executeTree_ignoring (context registry) tree
      exact ⟨registry, tree, s', hregistry, htree, hended, eq_of_beq hfact, halso _ _ _ hended,
        hblocks _⟩

end Playbook
