import Playbook.Proofs.Likeness.Running
import Playbook.Proofs.Overlay
import Playbook.Proofs.PlainBlock

/-!
# Inherited variables

The variables of a block may as well stand in each of its elements, under what these set themselves,
as long as every string can be resolved. The strings are asked for at other moments then, but under
the same facts: a block asks for its own strings before its elements run and makes no use of the
answers, and each task asks for the variables around it anew.
-/

namespace Playbook

open Engine Interpreter

/-- The resolver never fails. -/
def Resolver.Total (resolver : Resolver) : Prop :=
  ∀ text facts, ∃ resolved, resolver text facts = .ok resolved

/-! ## Computations that only ask -/

/-- Always succeeds with a value that depends on the facts, and changes nothing but what was
asked. -/
def Answers {α : Type} (x : Acting ResolveError α) (answer : Facts → α) : Prop :=
  ∀ s, ∃ calls, x.run s = (.ok (answer s.facts), s.withCalls calls)

/-- What a resolver gives for a text; the text itself where it fails. -/
def Resolver.answer (resolver : Resolver) (text : String) (facts : Facts) : String :=
  match resolver text facts with
  | .ok resolved => resolved
  | .error _ => text

/-- The variables with the answers for their values. -/
def Environment.answered (context : Context) (environment : Environment) (facts : Facts) :
    List (String × String) :=
  environment.entries.map fun entry ↦ (entry.1, context.resolver.answer entry.2 facts)

namespace Answers

variable {α β : Type} {context : Context}

protected theorem pure (value : α) : Answers (Pure.pure value) fun _ ↦ value :=
  fun s ↦ ⟨s.journal.calls, rfl⟩

protected theorem bind {x : Acting ResolveError α} {next : α → Acting ResolveError β}
    {first : Facts → α} {second : α → Facts → β} (hx : Answers x first)
    (hnext : ∀ value, Answers (next value) (second value)) :
    Answers (x >>= next) fun facts ↦ second (first facts) facts := by
  intro s
  obtain ⟨calls, hrun⟩ := hx s
  obtain ⟨calls', hrun'⟩ := hnext (first s.facts) (s.withCalls calls)
  refine ⟨calls', ?_⟩
  rw [run_bind_of_ok hrun, hrun']
  rfl

theorem ask (htotal : context.resolver.Total) (text : String) :
    Answers (Acting.ask context text) (context.resolver.answer text) := by
  intro s
  obtain ⟨resolved, hresolved⟩ := htotal text s.facts
  have hget : (get : Acting ResolveError Session).run s = (.ok s, s) := rfl
  refine ⟨text :: s.journal.calls, ?_⟩
  rw [Acting.ask, run_bind_of_ok hget, Resolver.answer, hresolved]
  rfl

theorem environment (htotal : context.resolver.Total) (given : Environment) :
    Answers (given.ask context) (given.answered context) := by
  unfold Environment.ask Environment.answered
  induction given.entries with
  | nil => exact Answers.pure []
  | cons entry rest ih =>
    rw [List.mapM_cons]
    have hfirst := (ask htotal entry.2).bind fun resolved ↦ Answers.pure (entry.1, resolved)
    exact hfirst.bind fun first ↦ ih.bind fun others ↦ Answers.pure (first :: others)

/-! Of the other values of an element it is enough that they are answered. -/

theorem exists_bind {x : Acting ResolveError α} {next : α → Acting ResolveError β}
    (hx : ∃ first, Answers x first) (hnext : ∀ value, ∃ second, Answers (next value) second) :
    ∃ answer, Answers (x >>= next) answer := by
  obtain ⟨first, hx⟩ := hx
  choose second hnext using hnext
  exact ⟨_, hx.bind hnext⟩

theorem exists_optional {ask : α → Acting ResolveError β}
    (h : ∀ value, ∃ answer, Answers (ask value) answer) (given : Option α) :
    ∃ answer, Answers (given.mapM ask) answer := by
  cases given with
  | none => exact ⟨_, Answers.pure none⟩
  | some value =>
    rw [Option.mapM_some, ← bind_pure_comp]
    exact exists_bind (h value) fun _ ↦ ⟨_, Answers.pure _⟩

theorem exists_list {ask : α → Acting ResolveError β}
    (h : ∀ value, ∃ answer, Answers (ask value) answer) (values : List α) :
    ∃ answer, Answers (values.mapM ask) answer := by
  induction values with
  | nil =>
    rw [List.mapM_nil]
    exact ⟨_, Answers.pure []⟩
  | cons value rest ih =>
    rw [List.mapM_cons]
    exact exists_bind (h value) fun _ ↦ exists_bind ih fun _ ↦ ⟨_, Answers.pure _⟩

mutual

theorem exists_json (htotal : context.resolver.Total) : (value : Json) →
    ∃ answer, Answers (value.ask context) answer
  | .str template => exists_bind ⟨_, ask htotal template⟩ fun _ ↦ ⟨_, Answers.pure _⟩
  | .arr items => exists_bind (exists_jsonItems htotal items) fun _ ↦ ⟨_, Answers.pure _⟩
  | .obj fields => exists_bind (exists_jsonFields htotal fields) fun _ ↦ ⟨_, Answers.pure _⟩
  | .null | .bool _ | .int _ | .float _ => ⟨_, Answers.pure _⟩

theorem exists_jsonItems (htotal : context.resolver.Total) : (items : List Json) →
    ∃ answer, Answers (Json.askItems context items) answer
  | [] => ⟨_, Answers.pure []⟩
  | item :: rest =>
    exists_bind (exists_json htotal item) fun _ ↦
      exists_bind (exists_jsonItems htotal rest) fun _ ↦ ⟨_, Answers.pure _⟩

theorem exists_jsonFields (htotal : context.resolver.Total) : (fields : List (String × Json)) →
    ∃ answer, Answers (Json.askFields context fields) answer
  | [] => ⟨_, Answers.pure []⟩
  | (_, value) :: rest =>
    exists_bind (exists_json htotal value) fun _ ↦
      exists_bind (exists_jsonFields htotal rest) fun _ ↦ ⟨_, Answers.pure _⟩

end

theorem exists_loop (htotal : context.resolver.Total) (spec : LoopSpec) :
    ∃ answer, Answers (spec.ask context) answer := by
  cases spec with
  | var template => exact exists_bind ⟨_, ask htotal template⟩ fun _ ↦ ⟨_, Answers.pure _⟩
  | items values => exact exists_bind (exists_jsonItems htotal values) fun _ ↦ ⟨_, Answers.pure _⟩

/-- What is answered for the rest of a heading does not depend on its variables. -/
theorem exists_heading (htotal : context.resolver.Total) (heading : Heading) :
    ∃ rest : Facts → Heading, ∀ environment : Environment,
      Answers (Heading.ask context { heading with environment }) fun facts ↦
        { rest facts with environment := .ofList (environment.answered context facts) } := by
  have htext (text : String) : ∃ answer, Answers (Acting.ask context text) answer :=
    ⟨_, ask htotal text⟩
  have htask (task : Invocation) : ∃ answer, Answers (task.ask context) answer :=
    exists_bind (exists_jsonFields htotal task.config) fun _ ↦ ⟨_, Answers.pure _⟩
  obtain ⟨name, hname⟩ := exists_optional htext heading.name
  obtain ⟨guards, hguards⟩ := exists_list htext heading.guards
  obtain ⟨register, hregister⟩ := exists_optional htext heading.register
  obtain ⟨loop, hloop⟩ := exists_optional (exists_loop htotal) heading.loop
  obtain ⟨task, htask⟩ := exists_optional htask heading.task
  refine ⟨fun facts ↦ { heading with
    name := name facts, guards := guards facts, register := register facts, loop := loop facts,
    task := task facts }, fun environment ↦ ?_⟩
  exact hname.bind fun _ ↦ hguards.bind fun _ ↦ hregister.bind fun _ ↦
    (Answers.environment htotal environment).bind fun _ ↦ hloop.bind fun _ ↦ htask.bind fun _ ↦
      Answers.pure _

end Answers

variable {context : Context} {here there : Nat}

/-! ## What is inherited -/

/-- The variables of blocks over each other, the outermost first. -/
def overlaid (context : Context) (facts : Facts) (inherited : Environment)
    (outer : List Environment) : Environment :=
  outer.foldl (fun found own ↦ found.insertMany (own.answered context facts)) inherited

theorem overlaid_append (facts : Facts) (inherited : Environment)
    (outer inner : List Environment) :
    overlaid context facts inherited (outer ++ inner) =
      overlaid context facts (overlaid context facts inherited outer) inner :=
  List.foldl_append

theorem Answers.inherit (htotal : context.resolver.Total) (inherited : Environment)
    (outer : List Environment) :
    Answers (inherit context inherited outer) (overlaid context · inherited outer) := by
  induction outer generalizing inherited with
  | nil => exact Answers.pure inherited
  | cons own rest ih => exact (Answers.environment htotal own).bind fun _ ↦ ih _

/-- Variables are inherited one over the other as if they had been put over each other before. -/
theorem insertMany_answered (context : Context) (facts : Facts)
    (inherited around own : Environment) :
    (inherited.insertMany (around.answered context facts)).insertMany
        (own.answered context facts) =
      inherited.insertMany
        (Environment.answered context (around.insertMany own.entries) facts) := by
  have hget (map environment : Environment) (key : String) :
      (map.insertMany (environment.answered context facts)).get? key =
        ((environment.get? key).map (context.resolver.answer · facts)).or (map.get? key) := by
    rw [SortedMap.get?_insertMany, Environment.answered, ← List.map_reverse,
      Entries.lookup_map key (context.resolver.answer · facts),
      environment.sorted.lookup_reverse]
    rfl
  refine SortedMap.ext_get? fun key ↦ ?_
  rw [hget, hget, hget, SortedMap.get?_insertMany_entries, Option.map_or, Option.or_assoc]

/-! ## What is the same -/

def Journal.uncalled (journal : Journal) : Journal :=
  { journal with calls := [] }

/-- All of the journals is compared, apart from what was asked and where log entries were made. -/
def Likeness.unasked : Likeness where
  journal j k := j.uncalled.unspanned = k.uncalled.unspanned
  strays := False
  logged level message spans spans' h := Likeness.unspanned.logged level message spans spans' h
  noted event h := Likeness.unspanned.noted event h
  asked _ h := h
  read reading h := Likeness.unspanned.read reading h

theorem Likeness.like_unasked {s t : Session} :
    Likeness.unasked.Like s.depth s.depth s t ↔
      (s.withCalls []).unspanned = (t.withCalls []).unspanned := by
  constructor
  · rintro ⟨hfacts, hcancelled, hfiles, -, hdepth, hjournal⟩
    have hjournal' : { s.journal with calls := [] }.unspanned =
        { t.journal with calls := [] }.unspanned := hjournal
    rw [Session.unspanned, Session.unspanned, Session.withCalls, Session.withCalls, hjournal',
      hfacts, hcancelled, hfiles, hdepth]
  · intro h
    obtain ⟨hfacts, hdepth, hcancelled, hfiles, hjournal⟩ := Session.mk.inj h
    exact ⟨hfacts, hcancelled, hfiles, rfl, hdepth.symm, hjournal⟩

/-- What was asked does not matter, only what was answered under the same facts. -/
theorem Alike.bind_answers {α : Type} {x y : Acting ResolveError α} {first second : Facts → α}
    (hx : Answers x first) (hy : Answers y second) {f g : α → Run}
    (h : ∀ facts, Alike .unasked here there (f (first facts)) (g (second facts)))
    (wrap : ResolveError → ExecutionError) :
    Alike .unasked here there (Acting.because wrap x >>= f) (Acting.because wrap y >>= g) := by
  have hrun {z : Acting ResolveError α} {answer : Facts → α} (hz : Answers z answer)
      (next : α → Run) (s : Session) : ∃ calls, (Acting.because wrap z >>= next).run s =
        (next (answer s.facts)).run (s.withCalls calls) := by
    obtain ⟨calls, hcalls⟩ := hz s
    have hbecause : (Acting.because wrap z).run s = (.ok (answer s.facts), s.withCalls calls) := by
      rw [because_run, hcalls]
      rfl
    exact ⟨calls, run_bind_of_ok hbecause⟩
  constructor
  · intro s t hst
    obtain ⟨calls, hcalls⟩ := hrun hx f s
    obtain ⟨calls', hcalls'⟩ := hrun hy g t
    rw [hcalls, hcalls', hst.facts]
    exact (h t.facts).ends _ _ ⟨hst.facts, hst.cancelled, hst.files, hst.depth_left,
      hst.depth_right, hst.journal⟩
  · intro s
    obtain ⟨calls, hcalls⟩ := hrun hx f s
    rw [hcalls]
    exact (h s.facts).keeps (s.withCalls calls)

theorem Alike.of_answers {α : Type} {x y : Acting ResolveError α} {answer : Facts → α}
    (hx : Answers x answer) (hy : Answers y answer) : Alike .unasked here there x y := by
  constructor
  · intro s t hst
    obtain ⟨calls, hcalls⟩ := hx s
    obtain ⟨calls', hcalls'⟩ := hy t
    rw [hcalls, hcalls', hst.facts]
    exact .inr ⟨rfl, hst.facts, hst.cancelled, hst.files, hst.depth_left, hst.depth_right,
      hst.journal⟩
  · intro s
    obtain ⟨calls, hcalls⟩ := hx s
    rw [hcalls]
    exact Nat.le_refl _

/-- Blocks from which the same is inherited have the same variables over each other. -/
theorem overlaid_eq (htotal : context.resolver.Total) {outer outer' : List Environment}
    (houter : ∀ inherited, Alike .unasked here there (inherit context inherited outer)
      (inherit context inherited outer')) (facts : Facts) (inherited : Environment) :
    overlaid context facts inherited outer = overlaid context facts inherited outer' := by
  let session (depth : Nat) : Session := ⟨facts, depth, false, ⟨∅, []⟩, .empty⟩
  have hstart : Likeness.unasked.Like here there (session here) (session there) :=
    ⟨rfl, rfl, rfl, rfl, rfl, rfl⟩
  obtain ⟨calls, hrun⟩ := Answers.inherit htotal inherited outer (session here)
  obtain ⟨calls', hrun'⟩ := Answers.inherit htotal inherited outer' (session there)
  have hends := (houter inherited).ends (session here) (session there) hstart
  rw [hrun, hrun'] at hends
  rcases hends with ⟨hstrays, -⟩ | ⟨hresult, -⟩
  · exact hstrays.elim
  · exact Except.ok.inj hresult

/-! ## Variables that stand further in -/

namespace Outline

/-- The element with its own variables over the given ones. -/
def under (around : Environment) : Outline → Outline
  | .element heading replaced children =>
    .element { heading with environment := around.insertMany heading.environment.entries }
      replaced children

end Outline

/-- The strings of a task and the variables it runs with. -/
def prepare (context : Context) (outer : List Environment) (heading : Heading) :
    Acting ResolveError (Heading × Environment) := do
  let resolved ← heading.ask context
  let inherited ← inherit context ∅ outer
  return (resolved, inherited.insertMany resolved.environment.entries)

theorem single_none (file : RunFile) (spans : List String) (outer : List Environment)
    (heading : Heading) : single context file spans outer heading none =
      Acting.because .resolve (prepare context outer heading) >>= fun prepared ↦
        perform context file spans prepared.1 prepared.2 := by
  simp only [single, prepare, because_bind, bind_assoc]
  rfl

variable {file file' : RunFile}

theorem single_under (htotal : context.resolver.Total)
    (hfile : ∀ spans spans' path, Alike .unasked here there (file spans path) (file' spans' path))
    {outer outer' : List Environment} (houter : ∀ facts inherited,
      overlaid context facts inherited outer = overlaid context facts inherited outer')
    (around : Environment) (heading : Heading) {inside inside' : Option Run}
    (hinside : Option.Rel (Alike .unasked here there) inside inside') (spans spans' : List String) :
    Alike .unasked here there (single context file spans (outer ++ [around]) heading inside)
      (single context file' spans' (outer' ++ [∅])
        { heading with environment := around.insertMany heading.environment.entries } inside') := by
  -- The two headings ask for different variables and are answered alike apart from them.
  obtain ⟨rest, hheading⟩ := Answers.exists_heading htotal heading
  have hown := hheading heading.environment
  have hboth := hheading (around.insertMany heading.environment.entries)
  cases hinside with
  | some hrun => exact Alike.bind_answers hown hboth (fun _ ↦ hrun) .resolve
  | none =>
    rw [single_none, single_none]
    have hleft := hown.bind fun resolved ↦
      (Answers.inherit htotal ∅ (outer ++ [around])).bind fun inherited ↦
        Answers.pure (resolved, inherited.insertMany resolved.environment.entries)
    have hright := hboth.bind fun resolved ↦
      (Answers.inherit htotal ∅ (outer' ++ [∅])).bind fun inherited ↦
        Answers.pure (resolved, inherited.insertMany resolved.environment.entries)
    refine Alike.bind_answers hleft hright (fun facts ↦ ?_) .resolve
    have hmerged := insertMany_answered context facts (overlaid context facts ∅ outer) around
      heading.environment
    dsimp only
    rw [SortedMap.insertMany_ofList, SortedMap.insertMany_ofList, overlaid_append, overlaid_append,
      ← houter facts ∅]
    have hleft : overlaid context facts (overlaid context facts ∅ outer) [around] =
      (overlaid context facts ∅ outer).insertMany (around.answered context facts) := rfl
    have hright : overlaid context facts (overlaid context facts ∅ outer) [∅] =
      overlaid context facts ∅ outer := rfl
    rw [hleft, hright, hmerged]
    exact perform_alike hfile spans spans' { rest facts with environment := ∅ } _

/-- An element that is moved out of a block with variables may take them along. -/
theorem interpret_under (htotal : context.resolver.Total)
    (hfile : ∀ spans spans' path, Alike .unasked here there (file spans path) (file' spans' path))
    {outer outer' : List Environment} (houter : ∀ facts inherited,
      overlaid context facts inherited outer = overlaid context facts inherited outer')
    (around : Environment) (outline : Outline) (spans spans' : List String) :
    Alike .unasked here there (interpret context file spans (outer ++ [around]) outline)
      (interpret context file' spans' (outer' ++ [∅]) (outline.under around)) := by
  obtain ⟨heading, replaced, children⟩ := outline
  have hinner (inherited : Environment) : Alike .unasked here there
      (inherit context inherited (outer ++ [around] ++ [heading.environment]))
      (inherit context inherited
        (outer' ++ [∅] ++ [around.insertMany heading.environment.entries])) := by
    have hleft := Answers.inherit htotal inherited (outer ++ [around] ++ [heading.environment])
    have hright := Answers.inherit htotal inherited
      (outer' ++ [∅] ++ [around.insertMany heading.environment.entries])
    have heq : (overlaid context · inherited (outer ++ [around] ++ [heading.environment])) =
        (overlaid context · inherited
          (outer' ++ [∅] ++ [around.insertMany heading.environment.entries])) := by
      funext facts
      simp only [overlaid_append, ← houter facts inherited]
      exact insertMany_answered context facts _ around heading.environment
    rw [heq] at hleft
    exact Alike.of_answers hleft hright
  rw [Outline.under, interpret, interpret]
  dsimp only
  refine element_alike rfl rfl (single_under htotal hfile houter around heading ?_ _ _)
  split
  · exact .none
  · exact .some ((OutlinesAlike.refl children).alike hfile hinner _ _)

theorem interpretAll_under (htotal : context.resolver.Total)
    (hfile : ∀ spans spans' path, Alike .unasked here there (file spans path) (file' spans' path))
    {outer outer' : List Environment} (houter : ∀ facts inherited,
      overlaid context facts inherited outer = overlaid context facts inherited outer')
    (around : Environment) (outlines : List Outline) (spans spans' : List String) :
    Alike .unasked here there (interpretAll context file spans (outer ++ [around]) outlines)
      (interpretAll context file' spans' (outer' ++ [∅]) (outlines.map (·.under around))) := by
  induction outlines with
  | nil => exact Alike.pure ()
  | cons outline rest ih =>
    exact (interpret_under htotal hfile houter around outline spans spans').bind fun _ ↦ ih

/-- A block may leave its variables to its elements. -/
theorem OutlinesAlike.of_under (htotal : context.resolver.Total) (heading : Heading)
    (replaced replaced' : List Outline) {children : List Outline} (hchildren : children ≠ []) :
    OutlinesAlike context .unasked here there [.element heading replaced children]
      [.element { heading with environment := ∅ } replaced'
        (children.map (·.under heading.environment))] := by
  refine ⟨iff_of_false (List.cons_ne_nil _ _) (List.cons_ne_nil _ _), ?_⟩
  intro file file' hfile outer outer' houter spans spans'
  have hempty : children.isEmpty = false := List.isEmpty_eq_false_iff.mpr hchildren
  have hempty' : (children.map (·.under heading.environment)).isEmpty = false := by
    rw [List.isEmpty_map, hempty]
  obtain ⟨rest, hheading⟩ := Answers.exists_heading htotal heading
  simp only [interpretAll, interpret, hempty, hempty']
  refine Alike.bind (element_alike rfl rfl ?_) fun _ ↦ Alike.pure ()
  refine Alike.bind_answers (hheading heading.environment) (hheading ∅) (fun _ ↦ ?_) .resolve
  exact interpretAll_under htotal hfile (overlaid_eq htotal houter) heading.environment children _ _

end Playbook
