import Playbook.Proofs.Inclusion.Single

/-!
# Including is inlining

A playbook that includes a file does what it would do with the elements of the file in place of the
include, except for what the include does itself: it asks for its file, it is a task, and it reads.
The elements run one file deeper when they are included, so this holds as long as no file is refused
because too many are open.
-/

namespace Playbook

open Engine Interpreter
open Yaml (Node)

variable {context : Context}

/-- What is left by a playbook that includes a file, `s`, and by the one with the elements of the
file in its place, `t`. The include was reached at `m`; what it does itself comes next in the
journal of `s`, and after that both journals go on with the same entries. -/
structure AfterInclude (context : Context) (file : String) (m s t : Session) : Prop where
  facts : s.facts = t.facts
  cancelled : s.cancelled = t.cancelled
  files : s.files = t.files
  depth : s.depth = t.depth
  journal : ∃ new : Journal,
    s.journal.unspanned = new.after ((m.journal.including file).opening ["include"]
      ⟨.playbook, context.settings.locate file,
        m.files.readText (context.settings.locate file)⟩).unspanned ∧
    t.journal.unspanned = new.after m.journal.unspanned

/-- An include leaves no trace by itself. -/
theorem AfterInclude.trace_eq {file : String} {m s t : Session}
    (h : AfterInclude context file m s t) : s.trace = t.trace := by
  obtain ⟨new, hs, ht⟩ := h.journal
  have hevents : s.journal.events = new.events ++
      (.run .include :: .init .include (includeConfig file) ∅ :: m.journal.events) :=
    congrArg Journal.events hs
  have hevents' : t.journal.events = new.events ++ m.journal.events := congrArg Journal.events ht
  rw [Session.trace, Session.trace, hevents, hevents', List.filter_append, List.filter_append]
  rfl

theorem Journal.unspanned_opening {j k : Journal} (h : j.unspanned = k.unspanned) (file : String)
    (reading : Reading) : ((j.including file).opening ["include"] reading).unspanned =
      ((k.including file).opening ["include"] reading).unspanned := by
  obtain ⟨hcalls, hevents, hlog, hreads⟩ := Journal.mk.inj h
  simp only [Journal.unspanned, Journal.opening, Journal.including, List.map_cons, hcalls, hevents,
    hlog, hreads]

theorem AfterInclude.of_like {file text : String} {opened : Nat} {start m s t : Session}
    (hstart : start.journal.unspanned = m.journal.unspanned)
    (hread : m.files.readText (context.settings.locate file) = .ok text)
    (h : (Likeness.since ((start.journal.including file).opening ["include"]
      ⟨.playbook, context.settings.locate file, .ok text⟩) m.journal).Like opened opened s t) :
    AfterInclude context file m s t := by
  obtain ⟨new, hs, ht⟩ := h.journal
  refine ⟨h.facts, h.cancelled, h.files, h.depth_left.trans h.depth_right.symm, new, ?_, ht⟩
  rw [hs, Journal.unspanned_opening hstart, hread]

/-- How a playbook with an include at `m` ends, `included`, against the one with the elements of the
file in its place, `inlined`. When the elements fail, the include wraps their error; when they
succeed, what comes after them runs from the session they leave. -/
structure Inlines (context : Context) (file : String) (inside after : Run) (m : Session)
    (included inlined : Except ExecutionError Unit × Session) : Prop where
  sessions : AfterInclude context file m included.2 inlined.2
  failed : ∀ error t, inside.run m = (.error error, t) →
    inlined = (.error error, t) ∧ included.1 = .error (.included file error)
  passed : ∀ t, inside.run m = (.ok (), t) → inlined = after.run t ∧ included.1 = inlined.1

/-- A playbook with an include against the one with the elements of the file in its place, from the
session `m` at which the include is reached. -/
theorem interpretAll_include (hregistered : context.registry.find "include" = .ok .include)
    {c : Likeness} (hjournal : ∀ j k, c.journal j k → j.unspanned = k.unspanned) {opened : Nat}
    {s m : Session} (hsm : c.Like opened opened s m) {file : String}
    (hfile : context.resolver file m.facts = .ok file) {text : String}
    (hread : m.files.readText (context.settings.locate file) = .ok text)
    {inside after : List Outline}
    (hparse : Document.ofText context.registry text = .ok (Outline.tree inside))
    {result : Except ExecutionError Unit} {s' : Session} (hclosed : s'.depth ≤ opened)
    (hrun : (interpretAll context (markedFile context) [] []
      (.element (.including file) [] [] :: after)).run s = (result, s'))
    {other : Except ExecutionError Unit} {t' : Session}
    (hother : (interpretAll context (runFile context) [] [] (inside ++ after)).run m =
      (other, t')) :
    Inlines context file (interpretAll context (runFile context) [] [] inside)
      (interpretAll context (runFile context) [] [] after) m (result, s') (other, t') := by
  let element : Outline := .element (.including file) [] []
  have hwhole : interpretAll context (markedFile context) [] [] (element :: after) = (do
      interpretAll context (markedFile context) [] [] [element]
      interpretAll context (markedFile context) [] [] after) :=
    interpretAll_append _ _ _ [element] after
  rw [hwhole] at hrun
  rw [interpretAll_append] at hother
  have hstarted := hjournal _ _ hsm.journal
  rcases hfirst : (interpretAll context (markedFile context) [] [] [element]).run s with ⟨first, s₁⟩
  rcases hinner : (interpretAll context (runFile context) [] [] inside).run m with ⟨inner, t₁⟩
  -- A mark that the include left would still be there at the end.
  have hbetween : s₁.depth ≤ opened := by
    have hkeeps := (interpretAll_marked context (c := .since s.journal s.journal) trivial
      (context.settings.includeLimit + 1) (Nat.le_refl 0) [] [] after).keeps
    have hle := depth_le_run_bind (x := interpretAll context (markedFile context) [] [] [element])
      (fun _ ↦ hkeeps) s
    rw [hrun, hfirst] at hle
    exact Nat.le_trans hle hclosed
  rcases interpretAll_inlined hregistered hsm hfile hread hparse hfirst hinner with
    hdepth | ⟨rfl, hlike⟩
  · exact absurd hdepth (Nat.not_lt_of_le hbetween)
  cases inner with
  | error error =>
    rw [run_bind_of_error hfirst] at hrun
    rw [run_bind_of_error hinner] at hother
    obtain ⟨rfl, rfl⟩ := Prod.mk.inj hrun
    obtain ⟨rfl, rfl⟩ := Prod.mk.inj hother
    refine ⟨.of_like hstarted hread hlike, fun error' t h ↦ ?_, fun t h ↦ ?_⟩
    · obtain ⟨herror, rfl⟩ := Prod.mk.inj (hinner.symm.trans h)
      obtain rfl := Except.error.inj herror
      exact ⟨rfl, rfl⟩
    · exact nomatch (Prod.mk.inj (hinner.symm.trans h)).1
  | ok _ =>
    rw [run_bind_of_ok hfirst] at hrun
    rw [run_bind_of_ok hinner] at hother
    have hrest : ((interpretAll context (markedFile context) [] [] after).run s₁).2.depth ≤
        opened := by
      rw [hrun]
      exact hclosed
    obtain ⟨hresult, hafter⟩ := interpretAll_unmarked trivial hlike after hrest
    rw [hrun, hother] at hresult hafter
    refine ⟨.of_like hstarted hread hafter, fun error' t h ↦ ?_, fun t h ↦ ?_⟩
    · exact nomatch (Prod.mk.inj (hinner.symm.trans h)).1
    · obtain ⟨-, rfl⟩ := Prod.mk.inj (hinner.symm.trans h)
      exact ⟨hother.symm, hresult⟩

/-- The same from the start: an include comes after something that succeeds, and marks would
show. -/
theorem interpretAll_include_after (hregistered : context.registry.find "include" = .ok .include)
    {before : List Outline} {s m : Session}
    (hbefore : (interpretAll context (runFile context) [] [] before).run s = (.ok (), m))
    {file : String} (hfile : context.resolver file m.facts = .ok file) {text : String}
    (hread : m.files.readText (context.settings.locate file) = .ok text)
    {inside after : List Outline}
    (hparse : Document.ofText context.registry text = .ok (Outline.tree inside))
    {result : Except ExecutionError Unit} {s' : Session}
    (hrun : (interpretAll context (runFile context) [] []
      (before ++ .element (.including file) [] [] :: after)).run s = (result, s'))
    (hmarked : (interpretAll context (markedFile context) [] []
      (before ++ .element (.including file) [] [] :: after)).run s = (result, s'))
    {other : Except ExecutionError Unit} {t' : Session}
    (hother : (interpretAll context (runFile context) [] [] (before ++ (inside ++ after))).run s =
      (other, t')) :
    Inlines context file (interpretAll context (runFile context) [] [] inside)
      (interpretAll context (runFile context) [] [] after) m (result, s') (other, t') := by
  have hclosed := interpretAll_depth context (before ++ .element (.including file) [] [] :: after) s
  rw [hrun] at hclosed
  have hmay : (Likeness.since s.journal s.journal).strays := trivial
  have hsame : (Likeness.since s.journal s.journal).Like s.depth s.depth s s :=
    ⟨rfl, rfl, rfl, rfl, rfl, ⟨[], [], [], []⟩, rfl, rfl⟩
  rw [interpretAll_append] at hmarked hother
  have hbetween := depth_le_run_bind (x := interpretAll context (markedFile context) [] [] before)
    (fun _ ↦ (interpretAll_marked context hmay (context.settings.includeLimit + 1)
      (Nat.le_refl s.depth) [] [] (.element (.including file) [] [] :: after)).keeps) s
  rw [hmarked, hclosed] at hbetween
  -- What comes before is not marked either, so it ends as it does with the actual files.
  obtain ⟨hresult, hlike⟩ := interpretAll_unmarked hmay hsame before hbetween
  rcases hfirst : (interpretAll context (markedFile context) [] [] before).run s with ⟨first, s₁⟩
  rw [hbefore, hfirst] at hresult hlike
  obtain rfl : first = .ok () := hresult
  rw [run_bind_of_ok hfirst] at hmarked
  rw [run_bind_of_ok hbefore] at hother
  have hjournal : ∀ j k, (Likeness.since s.journal s.journal).journal j k →
      j.unspanned = k.unspanned := by
    rintro j k ⟨new, hj, hk⟩
    exact hj.trans hk.symm
  exact interpretAll_include hregistered hjournal hlike hfile hread hparse (Nat.le_of_eq hclosed)
    hmarked hother

/-- A playbook that includes a file among its elements, and the elements of the file. -/
structure Inclusion where
  before : List Node
  file : String
  included : List Node
  after : List Node

/-- The playbook with the include. -/
def Inclusion.including (inclusion : Inclusion) : Node :=
  .seq (inclusion.before ++ includeNode inclusion.file :: inclusion.after)

/-- The playbook with the elements of the file in place of the include. -/
def Inclusion.inlined (inclusion : Inclusion) : Node :=
  .seq (inclusion.before ++ (inclusion.included ++ inclusion.after))

theorem readItems_including {registry : Registry} (h : registry.find "include" = .ok .include)
    (before after : List Node) (file : String) {outlines : List Outline} :
    Outline.readItems registry [] 0 (before ++ includeNode file :: after) = .ok outlines ↔
      ∃ first last, Outline.readItems registry [] 0 before = .ok first ∧
        Outline.readItems registry [] 0 after = .ok last ∧
        first ++ .element (.including file) [] [] :: last = outlines := by
  have helement := readItems_includeNode h file
  have hcons : includeNode file :: after = [includeNode file] ++ after := rfl
  simp only [hcons, Outline.readItems_append_eq_ok, helement, Except.ok.injEq]
  constructor
  · rintro ⟨first, _, hfirst, ⟨_, last, rfl, hlast, rfl⟩, rfl⟩
    exact ⟨first, last, hfirst, hlast, rfl⟩
  · rintro ⟨first, last, hfirst, hlast, rfl⟩
    exact ⟨first, _, hfirst, ⟨_, last, rfl, hlast, rfl⟩, rfl⟩

/-- A playbook with an include is refused when something else in it cannot be read. -/
theorem Inclusion.refused (hregistered : context.registry.find "include" = .ok .include)
    (inclusion : Inclusion)
    (h : ∃ error, Document.ofNode context.registry inclusion.including = .error error) :
    ∃ error error', ∀ s,
      (executeNode context inclusion.including).run s = (.error (.parse error), s) ∧
      (executeNode context inclusion.inlined).run s = (.error (.parse error'), s) := by
  obtain ⟨before, file, included, after⟩ := inclusion
  obtain ⟨error, herror⟩ := h
  rw [including, ofNode_seq] at herror
  rw [including, inlined]
  cases hread : Outline.readItems context.registry [] 0 (before ++ includeNode file :: after) with
  | ok outlines =>
    rw [hread] at herror
    cases herror
  | error error =>
    cases hread' : Outline.readItems context.registry [] 0 (before ++ (included ++ after)) with
    | ok outlines =>
      obtain ⟨first, _, hfirst, hrest, -⟩ := Outline.readItems_append_eq_ok.mp hread'
      obtain ⟨_, last, -, hlast, -⟩ := Outline.readItems_append_eq_ok.mp hrest
      have hall := (readItems_including hregistered before after file).mpr
        ⟨first, last, hfirst, hlast, rfl⟩
      cases hall.symm.trans hread
    | error error' =>
      rw [executeNode_of_error hread, executeNode_of_error hread']
      exact ⟨error, error', fun s ↦ ⟨rfl, rfl⟩⟩

/-- A playbook that includes a file at top level and the playbook with the elements of the file in
place of the include. If the first cannot be read, neither can the second, and nothing happens.
Otherwise, unless a file is refused, both do the same. What is before the include ends both if it
fails. The elements of the file, at the session `m` left by that, have the same effects, and they
find no variables around them; when they fail, the include wraps their error. If they succeed, the
rest runs from the session they leave. -/
theorem executeNode_include (context : Context)
    (hregistered : context.registry.find "include" = .ok .include) (inclusion : Inclusion)
    (hincluded : ∃ tree, Document.ofNode context.registry (.seq inclusion.included) = .ok tree) :
    ((∃ error, Document.ofNode context.registry inclusion.including = .error error) →
      ∃ error error', ∀ s,
        (executeNode context inclusion.including).run s = (.error (.parse error), s) ∧
        (executeNode context inclusion.inlined).run s = (.error (.parse error'), s)) ∧
    ((∃ tree, Document.ofNode context.registry inclusion.including = .ok tree) → ∀ s m,
      (∀ error, (executeNode context (.seq inclusion.before)).run s = (.error error, m) →
        (executeNode context inclusion.including).run s = (.error error, m) ∧
        (executeNode context inclusion.inlined).run s = (.error error, m)) ∧
      ((executeNode context (.seq inclusion.before)).run s = (.ok (), m) →
        context.resolver inclusion.file m.facts = .ok inclusion.file →
        (∃ text, m.files.readText (context.settings.locate inclusion.file) = .ok text ∧
          Document.ofText context.registry text =
            Document.ofNode context.registry (.seq inclusion.included)) →
        NeverRefuses context inclusion.including s →
        Inlines context inclusion.file (executeNode context (.seq inclusion.included))
          (executeNode context (.seq inclusion.after)) m
          ((executeNode context inclusion.including).run s)
          ((executeNode context inclusion.inlined).run s) ∧
        ((executeNode context inclusion.including).run s).2.trace =
          ((executeNode context inclusion.inlined).run s).2.trace)) := by
  refine ⟨inclusion.refused hregistered, ?_⟩
  obtain ⟨before, file, included, after⟩ := inclusion
  dsimp only [Inclusion.including, Inclusion.inlined] at hincluded ⊢
  simp only [ofNode_seq] at hincluded ⊢
  rintro ⟨_, hread⟩ s m
  obtain ⟨_, hincluded⟩ := hincluded
  obtain ⟨inside, hinside, -⟩ := Outline.map_eq_ok.mp hincluded
  obtain ⟨_, hread, -⟩ := Outline.map_eq_ok.mp hread
  obtain ⟨first, last, hfirst, hlast, rfl⟩ := (readItems_including hregistered _ _ _).mp hread
  have hread' := Outline.readItems_append_eq_ok.mpr
    ⟨first, _, hfirst, Outline.readItems_append_eq_ok.mpr ⟨inside, last, hinside, hlast, rfl⟩, rfl⟩
  constructor
  · intro error hbefore
    rw [executeNode_of_ok hfirst] at hbefore
    rw [executeNode_of_ok hread, executeNode_of_ok hread', interpretAll_append,
      interpretAll_append _ _ _ first]
    exact ⟨run_bind_of_error hbefore, run_bind_of_error hbefore⟩
  · rintro hbefore hfile ⟨text, htext, hparse⟩ hrefuses
    rcases hrun : (executeNode context (.seq (before ++ includeNode file :: after))).run s with
      ⟨result, s'⟩
    rcases hother : (executeNode context (.seq (before ++ (included ++ after)))).run s with
      ⟨other, t'⟩
    have hmarked := (hrefuses mark).trans hrun
    rw [executeNodeOr_of_ok hread] at hmarked
    rw [executeNode_of_ok hread] at hrun
    rw [executeNode_of_ok hread'] at hother
    rw [executeNode_of_ok hfirst] at hbefore
    rw [hinside] at hparse
    have hinlines := interpretAll_include_after hregistered hbefore hfile htext hparse hrun hmarked
      hother
    rw [executeNode_of_ok hinside, executeNode_of_ok hlast]
    exact ⟨hinlines, hinlines.sessions.trace_eq⟩

/-! ## A playbook that is not refused -/

/-- No task among the outlines runs a file. -/
def RunsNoFile (context : Context) (outlines : List Outline) : Prop :=
  ∀ (file file' : RunFile) (spans : List String) (outer : List Environment),
    interpretAll context file spans outer outlines = interpretAll context file' spans outer outlines

/-- A heading that sets a fact. -/
def Heading.setting (name value : String) : Heading :=
  { Heading.blank with task := some ⟨"set_fact", [(name, .str value)]⟩ }

theorem runsNoFile_setting (hregistered : context.registry.find "set_fact" = .ok .setFact)
    (name value : String) : RunsNoFile context [.element (.setting name value) [] []] := by
  intro file file' spans outer
  have hown : Environment.ask context ∅ = pure [] := rfl
  have hheading : Heading.ask context (.setting name value) = (do
      let resolved ← Acting.ask context value
      return .setting name resolved) := by
    simp only [Heading.ask, Heading.setting, Heading.blank, Option.mapM_none, List.mapM_nil,
      pure_bind, Option.mapM_some, hown, Invocation.ask, Json.askFields, Json.ask, bind_assoc,
      map_eq_pure_bind]
    rfl
  have hperform (file : RunFile) (resolved : String) (environment : Environment) :
      perform context file (spans ++ ["set_fact"]) (.setting name resolved) environment =
        perform context file' (spans ++ ["set_fact"]) (.setting name resolved) environment := by
    simp only [perform, Heading.setting, hregistered]
    rfl
  have hall (file : RunFile) :
      interpretAll context file spans outer [.element (.setting name value) [] []] = (do
        let resolved ← Acting.because .resolve (Acting.ask context value)
        let inherited ← Acting.because .resolve (inherit context ∅ outer)
        perform context file (spans ++ ["set_fact"]) (.setting name resolved)
          (inherited.insertMany [])) := by
    have hsingle : interpretAll context file spans outer [.element (.setting name value) [] []] =
      single context file (spans ++ ["set_fact"]) outer (.setting name value) none >>=
        fun _ ↦ pure () := rfl
    rw [hsingle, bind_pure, single, hheading, because_bind, bind_assoc]
    rfl
  rw [hall, hall]
  simp only [hperform file]

theorem neverRefuses_including (hregistered : context.registry.find "include" = .ok .include)
    {file : String} {s : Session} (hfile : context.resolver file s.facts = .ok file) {text : String}
    (hread : s.files.readText (context.settings.locate file) = .ok text)
    {inside after : List Outline}
    (hparse : Document.ofText context.registry text = .ok (Outline.tree inside))
    (hroom : s.depth < context.settings.includeLimit) (hinside : RunsNoFile context inside)
    (hafter : RunsNoFile context after) {nodes : List Node}
    (hnodes : Outline.readItems context.registry [] 0 nodes =
      .ok (.element (.including file) [] [] :: after)) :
    NeverRefuses context (.seq nodes) s := by
  have hroom' : (s.including file).depth < context.settings.includeLimit := hroom
  have hread' : (s.including file).files.readText (context.settings.locate file) = .ok text := hread
  have hall (refuse : RunFile) : executeNodeOr context refuse (.seq nodes) = (do
      interpretAll context (runFileOr context refuse (context.settings.includeLimit + 1)) [] []
        [.element (.including file) [] []]
      interpretAll context (runFile context) [] [] after) := by
    rw [executeNodeOr_of_ok hnodes, hafter (runFile context)]
    exact interpretAll_append _ _ _ [_] after
  have hfirst (refuse : RunFile) :
      (interpretAll context (runFileOr context refuse (context.settings.includeLimit + 1)) [] []
        [.element (.including file) [] []]).run s =
      (interpretAll context (runFile context) [] [] [.element (.including file) [] []]).run s := by
    have hrefusing : runFile context = runFileOr context
        (fun _ _ ↦ throw (.includeDepth context.settings.includeLimit))
        (context.settings.includeLimit + 1) :=
      (runFileOr_refusing context _).symm
    simp only [interpretAll_including hregistered _ hfile, hrefusing,
      runFileOr_open hroom' hread' hparse, hinside _ (runFile context)]
  have hrun (refuse : RunFile) : (executeNodeOr context refuse (.seq nodes)).run s =
      (interpretAll context (runFile context) [] [] [.element (.including file) [] []] >>= fun _ ↦
        interpretAll context (runFile context) [] [] after).run s := by
    have h := hfirst refuse
    rcases helement : (interpretAll context (runFile context) [] []
      [.element (.including file) [] []]).run s with ⟨_ | _, t⟩
    · rw [helement] at h
      rw [hall, run_bind_of_error h, run_bind_of_error helement]
    · rw [helement] at h
      rw [hall, run_bind_of_ok h, run_bind_of_ok helement]
  intro refuse
  rw [← executeNodeOr_refusing, hrun, hrun]

def settingText : String := "- set_fact: {b: x}\n"

/-- A working directory with a playbook that sets a fact. -/
def settingFiles : FileSystem :=
  (FileSystem.initial ["work"]).place "b.yaml"
    (.file (Text.Utf8.encode settingText) FileSystem.newFileMode)

/-- Whether a document has one element, which sets `b`. -/
def setsB : Except Yaml.Fault Node → Bool
  | .ok (.seq [.map [(.str kind, .map [(.str name, .str value)])]]) =>
    kind == "set_fact" && name == "b" && value == "x"
  | _ => false

theorem eq_of_setsB {found : Except Yaml.Fault Node} (h : setsB found = true) :
    found = .ok (.seq [factNode "b" "x"]) := by
  unfold setsB at h
  split at h
  · simp_all [factNode]
  · cases h

theorem ofText_settingText (registry : Registry) :
    Document.ofText registry settingText = Document.ofNode registry (.seq [factNode "b" "x"]) := by
  have hblank : Document.isBlankText settingText = false := by
    decide +kernel
  have hparse : Node.parse settingText = .ok (.seq [factNode "b" "x"]) := by
    apply eq_of_setsB
    decide +kernel
  rw [Document.ofText, hblank, hparse]
  rfl

/-- An include between nothing and another fact. -/
def settingInclusion : Inclusion :=
  ⟨[], "b.yaml", [factNode "b" "x"], [factNode "c" "y"]⟩

theorem executeNode_include_setting : ∃ registry,
    Registry.ofKinds TaskKind.standard = .ok registry ∧
    NeverRefuses ⟨.standard, registry, .identity, ∅⟩ settingInclusion.including
      (.start .standard settingFiles) ∧
    Inlines ⟨.standard, registry, .identity, ∅⟩ "b.yaml"
      (executeNode ⟨.standard, registry, .identity, ∅⟩ (.seq [factNode "b" "x"]))
      (executeNode ⟨.standard, registry, .identity, ∅⟩ (.seq [factNode "c" "y"]))
      (.start .standard settingFiles)
      ((executeNode ⟨.standard, registry, .identity, ∅⟩ settingInclusion.including).run
        (.start .standard settingFiles))
      ((executeNode ⟨.standard, registry, .identity, ∅⟩ settingInclusion.inlined).run
        (.start .standard settingFiles)) := by
  obtain ⟨registry, tree, tree', hregistry, hinclude, hset, htree, htree', hinside, hnodes⟩ :
      ∃ registry tree tree', Registry.ofKinds TaskKind.standard = .ok registry ∧
        registry.find "include" = .ok .include ∧ registry.find "set_fact" = .ok .setFact ∧
        Document.ofNode registry (.seq [factNode "b" "x"]) = .ok tree ∧
        Document.ofNode registry settingInclusion.including = .ok tree' ∧
        Outline.readItems registry [] 0 [factNode "b" "x"] =
          .ok [.element (.setting "b" "x") [] []] ∧
        Outline.readItems registry [] 0 [includeNode "b.yaml", factNode "c" "y"] =
          .ok [.element (.including "b.yaml") [] [], .element (.setting "c" "y") [] []] :=
    ⟨_, _, _, rfl, rfl, rfl, rfl, rfl, rfl, rfl⟩
  let context : Context := ⟨.standard, registry, .identity, ∅⟩
  let s : Session := .start .standard settingFiles
  have hfile : context.resolver "b.yaml" s.facts = .ok "b.yaml" := rfl
  have hread : s.files.readText (context.settings.locate "b.yaml") = .ok settingText := by
    change settingFiles.readText (FilePath.join "." "b.yaml") = .ok settingText
    decide +kernel
  have hparse : Document.ofText registry settingText =
      .ok (Outline.tree [.element (.setting "b" "x") [] []]) := by
    rw [ofText_settingText, ofNode_seq, hinside]
    rfl
  have hroom : s.depth < context.settings.includeLimit := by
    change 0 < 64
    decide
  have hnever : NeverRefuses context (.seq [includeNode "b.yaml", factNode "c" "y"]) s :=
    neverRefuses_including hinclude hfile hread hparse hroom (runsNoFile_setting hset "b" "x")
      (runsNoFile_setting hset "c" "y") hnodes
  have hbefore : (executeNode context (.seq [])).run s = (.ok (), s) := rfl
  have hinlines := ((executeNode_include context hinclude settingInclusion ⟨tree, htree⟩).2
    ⟨tree', htree'⟩ s s).2 hbefore hfile ⟨settingText, hread, ofText_settingText registry⟩ hnever
  exact ⟨registry, hregistry, hnever, hinlines.1⟩

end Playbook
