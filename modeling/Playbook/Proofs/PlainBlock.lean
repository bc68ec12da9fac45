import Playbook.Proofs.Likeness.Running
import Playbook.Proofs.Rewriting

/-!
# Plain blocks

A block that says nothing of its own, except perhaps whether errors are ignored, may be left out
around its elements. It asks for nothing and gives no variables, and errors are ignored by tasks
only. In the log the elements then stand one level further out; nothing else tells the two
playbooks apart.
-/

namespace Playbook

open Engine Interpreter
open Yaml (Node)
open Grammar (Names string?_eq_some)

/-! ## What is the same -/

/-- The journal without the names of the elements in which log entries were made. -/
def Journal.unspanned (journal : Journal) : Journal :=
  { journal with log := journal.log.map fun entry ↦ { entry with spans := [] } }

def Session.unspanned (s : Session) : Session :=
  { s with journal := s.journal.unspanned }

/-- All of the journals is compared, apart from where log entries were made. -/
def Likeness.unspanned : Likeness where
  journal j k := j.unspanned = k.unspanned
  strays := False
  logged {j k} level message spans spans' h := by
    obtain ⟨hcalls, hevents, hlog, hreads⟩ := Journal.mk.inj h
    simp only [Journal.unspanned, List.map_cons, hcalls, hevents, hlog, hreads]
  noted event h := congrArg (fun j ↦ { j with events := event :: j.events }) h
  asked text h := congrArg (fun j ↦ { j with calls := text :: j.calls }) h
  read reading h := congrArg (fun j ↦ { j with reads := reading :: j.reads }) h

theorem Likeness.like_unspanned {s t : Session} :
    Likeness.unspanned.Like s.depth s.depth s t ↔ s.unspanned = t.unspanned := by
  constructor
  · rintro ⟨hfacts, hcancelled, hfiles, -, hdepth, hjournal⟩
    have hjournal' : s.journal.unspanned = t.journal.unspanned := hjournal
    rw [Session.unspanned, Session.unspanned, hfacts, hcancelled, hfiles, hdepth, hjournal']
  · intro h
    obtain ⟨hfacts, hdepth, hcancelled, hfiles, hjournal⟩ := Session.mk.inj h
    exact ⟨hfacts, hcancelled, hfiles, rfl, hdepth.symm, hjournal⟩

/-! ## A plain block runs what is inside -/

/-- A heading that says at most whether errors are ignored. -/
def Heading.IsPlain (heading : Heading) : Prop :=
  heading = { Heading.blank with ignoreErrors := heading.ignoreErrors }

variable {context : Context}

theorem single_plain (context : Context) {heading : Heading} (h : heading.IsPlain)
    (file : RunFile) (spans : List String) (outer : List Environment) (inside : Run) :
    single context file spans outer heading (some inside) = inside := by
  rw [h]
  rfl

/-- The elements of a plain block run as they do around it, given one more set of no variables. -/
theorem interpret_plain {heading : Heading} (h : heading.IsPlain) (file : RunFile)
    (spans : List String) (outer : List Environment) (replaced : List Outline)
    {children : List Outline} (hchildren : children ≠ []) :
    interpret context file spans outer (.element heading replaced children) =
      interpretAll context file (spans ++ ["block"]) (outer ++ [∅]) children := by
  have hempty : children.isEmpty = false := List.isEmpty_eq_false_iff.mpr hchildren
  have hsingle := single_plain context h file (spans ++ ["block"]) outer
  rw [h] at hsingle ⊢
  rw [interpret, element, hempty]
  exact hsingle _

theorem inherit_nothing (inherited : Environment) (outer : List Environment) :
    inherit context inherited (outer ++ [∅]) = inherit context inherited outer := by
  have hlast : (fun found ↦ inherit context found [∅]) = pure := rfl
  rw [inherit_append, hlast, bind_pure]

theorem OutlinesAlike.of_plain {c : Likeness} {opened : Nat} {heading : Heading}
    (h : heading.IsPlain) (replaced : List Outline) {children : List Outline}
    (hchildren : children ≠ []) :
    OutlinesAlike context c opened opened [.element heading replaced children] children := by
  refine ⟨iff_of_false (List.cons_ne_nil _ _) hchildren, ?_⟩
  intro file file' hfile outer outer' houter spans spans'
  have houter' : ∀ inherited, Alike c opened opened (inherit context inherited (outer ++ [∅]))
      (inherit context inherited outer') := by
    intro inherited
    rw [inherit_nothing]
    exact houter inherited
  rw [interpretAll, interpret_plain h file spans outer replaced hchildren]
  have hall := (OutlinesAlike.refl children).alike hfile houter' (spans ++ ["block"]) spans'
  have hlast (run : Run) : (run >>= fun _ ↦ interpretAll context file spans outer []) = run :=
    bind_pure run
  rw [hlast]
  exact hall

/-! ## Plain blocks in documents -/

/-- An element whose entries are blocks and whether errors are ignored; its last block has items. -/
inductive IsPlainBlock (items : List Node) : Node → Prop where
  | intro {node key value : Node} (front back : List (Node × Node))
      (mapping : node.untagged = .map (front ++ (key, value) :: back))
      (names : Names "block" (key, value)) (block : value.untagged = .seq items)
      (filled : items ≠ [])
      (before : ∀ entry ∈ front, Names "block" entry ∨ Names "ignore_errors" entry)
      (after : ∀ entry ∈ back, Names "ignore_errors" entry) : IsPlainBlock items node

/-- The items of a plain block take its place. -/
inductive Flattens : List Node → List Node → Prop where
  | intro {node : Node} {items : List Node} (plain : IsPlainBlock items node) :
      Flattens [node] items

namespace Outline

variable {registry : Registry} {outline after : Outline}

theorem readEntry_ignoreErrors {entry : Node × Node} (h : Names "ignore_errors" entry)
    (hread : readEntry registry [] entry outline = .ok after) :
    ∃ ignoreErrors, after = outline.withHeading { outline.heading with ignoreErrors } := by
  have hfield : Names ControlField.ignoreErrors.text entry := h
  obtain ⟨heading, hheading, rfl⟩ := readEntry_names_field (by decide) hfield hread
  obtain ⟨ignoreErrors, -, rfl⟩ := map_eq_ok.mp hheading
  exact ⟨ignoreErrors, rfl⟩

theorem readEntries_plain {entries : List (Node × Node)}
    (h : ∀ entry ∈ entries, Names "block" entry ∨ Names "ignore_errors" entry) :
    ∀ {outline : Outline}, outline.heading.IsPlain →
      readEntries registry [] entries outline = .ok after → after.heading.IsPlain := by
  induction entries with
  | nil =>
    intro outline hplain hread
    obtain rfl := Except.ok.inj hread
    exact hplain
  | cons entry rest ih =>
    intro outline hplain hread
    obtain ⟨between, hentry, hrest⟩ := readEntries_cons.mp hread
    refine ih (fun later hmem ↦ h later (List.mem_cons_of_mem _ hmem)) ?_ hrest
    rcases h entry List.mem_cons_self with hblock | hignore
    · obtain ⟨items, block, -, rfl⟩ := readEntry_names_block hblock hentry
      exact hplain
    · obtain ⟨ignoreErrors, rfl⟩ := readEntry_ignoreErrors hignore hentry
      change ({ outline.heading with ignoreErrors } : Heading).IsPlain
      rw [hplain]
      rfl

/-- Entries that are no blocks keep the children. -/
theorem readEntries_ignoreErrors {entries : List (Node × Node)}
    (h : ∀ entry ∈ entries, Names "ignore_errors" entry) :
    ∀ {outline : Outline}, readEntries registry [] entries outline = .ok after →
      after.children = outline.children := by
  induction entries with
  | nil =>
    intro outline hread
    obtain rfl := Except.ok.inj hread
    rfl
  | cons entry rest ih =>
    intro outline hread
    obtain ⟨between, hentry, hrest⟩ := readEntries_cons.mp hread
    obtain ⟨ignoreErrors, rfl⟩ := readEntry_ignoreErrors (h entry List.mem_cons_self) hentry
    have hlater := ih (fun later hmem ↦ h later (List.mem_cons_of_mem _ hmem)) hrest
    exact hlater

/-- A plain block is read into a plain heading and what its items are read into. -/
theorem readItems_plainBlock {items : List Node} {node : Node} (h : IsPlainBlock items node)
    {outlines : List Outline} (hread : readItems registry [] 0 [node] = .ok outlines) :
    ∃ heading replaced children, outlines = [.element heading replaced children] ∧
      heading.IsPlain ∧ children ≠ [] ∧ readItems registry [] 0 items = .ok children := by
  obtain ⟨front, back, mapping, names, block, filled, before, after⟩ := h
  obtain ⟨outline, rfl, hentries, -⟩ := (readItems_singleton mapping).mp hread
  have hplain : outline.heading.IsPlain := by
    refine readEntries_plain (fun entry hmem ↦ ?_) (by rfl : blank.heading.IsPlain) hentries
    rcases List.mem_append.mp hmem with hfront | hback
    · exact before entry hfront
    · rcases List.mem_cons.mp hback with rfl | hback
      · exact .inl names
      · exact .inr (after entry hback)
  obtain ⟨first, -, hrest⟩ := readEntries_append.mp hentries
  obtain ⟨between, hentry, hback⟩ := readEntries_cons.mp hrest
  obtain ⟨children, hitems, rfl⟩ := (readEntry_block names block).mp hentry
  have hchildren : outline.children = children := readEntries_ignoreErrors after hback
  obtain ⟨heading, replaced, inner⟩ := outline
  obtain rfl : inner = children := hchildren
  refine ⟨heading, replaced, inner, rfl, hplain, ?_, hitems⟩
  rintro rfl
  exact filled (List.length_eq_zero_iff.mp (length_readItems hitems).symm)

end Outline

/-- A plain block is transparent: its items may stand in its place, wherever it stands in a
document. The document can still be read, and from every session it has the same result and leaves
the same facts, files and journal, apart from the elements that entries of the log come from. -/
theorem executeNode_flatten (context : Context) {nodes nodes' : List Node}
    (h : Rewrites Flattens nodes nodes')
    (hread : ∃ tree, Document.ofNode context.registry (.seq nodes) = .ok tree) :
    (∃ tree, Document.ofNode context.registry (.seq nodes') = .ok tree) ∧
    ∀ s, ((executeNode context (.seq nodes)).run s).1 =
        ((executeNode context (.seq nodes')).run s).1 ∧
      ((executeNode context (.seq nodes)).run s).2.unspanned =
        ((executeNode context (.seq nodes')).run s).2.unspanned := by
  have hstep : ∀ opened part items outlines, Flattens part items →
      Outline.readItems context.registry [] 0 part = .ok outlines →
      ∃ outlines', Outline.readItems context.registry [] 0 items = .ok outlines' ∧
        OutlinesAlike context .unspanned opened opened outlines outlines' := by
    rintro opened _ items outlines ⟨hplain⟩ hread
    obtain ⟨heading, replaced, children, rfl, hheading, hfilled, hitems⟩ :=
      Outline.readItems_plainBlock hplain hread
    exact ⟨children, hitems, .of_plain hheading replaced hfilled⟩
  obtain ⟨hread', halike⟩ := h.executeNode_alike hstep hread
  exact ⟨hread', Alike.same not_false Likeness.like_unspanned halike⟩

/-- A loop over one item with the given elements in it. -/
def loopNode (items : List Node) : Node :=
  .map [(.str "loop", .map [(.str "items", .seq [.int 1])]), (.str "block", .seq items)]

/-- A block that ignores errors and says nothing else. -/
def ignoringNode (items : List Node) : Node :=
  .map [(.str "ignore_errors", .bool true), (.str "block", .seq items)]

theorem isPlainBlock_ignoringNode {items : List Node} (h : items ≠ []) :
    IsPlainBlock items (ignoringNode items) := by
  refine .intro [_] [] rfl rfl rfl h ?_ nofun
  rintro entry hentry
  obtain rfl := List.mem_singleton.mp hentry
  exact .inr rfl

theorem executeNode_flatten_looping :
    ∃ registry tree, Registry.ofKinds TaskKind.standard = .ok registry ∧
      Document.ofNode registry (.seq [loopNode [ignoringNode [factNode "a" "1"]]]) = .ok tree ∧
      Rewrites Flattens [loopNode [ignoringNode [factNode "a" "1"]]]
        [loopNode [factNode "a" "1"]] ∧
      ((∃ tree, Document.ofNode registry (.seq [loopNode [factNode "a" "1"]]) = .ok tree) ∧
        ∀ s,
          ((executeNode ⟨.standard, registry, Template.resolver, ∅⟩
              (.seq [loopNode [ignoringNode [factNode "a" "1"]]])).run s).1 =
            ((executeNode ⟨.standard, registry, Template.resolver, ∅⟩
              (.seq [loopNode [factNode "a" "1"]])).run s).1 ∧
          ((executeNode ⟨.standard, registry, Template.resolver, ∅⟩
              (.seq [loopNode [ignoringNode [factNode "a" "1"]]])).run s).2.unspanned =
            ((executeNode ⟨.standard, registry, Template.resolver, ∅⟩
              (.seq [loopNode [factNode "a" "1"]])).run s).2.unspanned) := by
  have hread : ∃ registry tree, Registry.ofKinds TaskKind.standard = .ok registry ∧
      Document.ofNode registry (.seq [loopNode [ignoringNode [factNode "a" "1"]]]) = .ok tree :=
    ⟨_, _, rfl, rfl⟩
  have hplain := isPlainBlock_ignoringNode (List.cons_ne_nil (factNode "a" "1") [])
  have hrewrites : Rewrites Flattens [loopNode [ignoringNode [factNode "a" "1"]]]
      [loopNode [factNode "a" "1"]] :=
    .inside [] [] [_] [] rfl rfl rfl rfl rfl (.here [] [] (Flattens.intro hplain))
  obtain ⟨registry, tree, hregistry, htree⟩ := hread
  exact ⟨registry, tree, hregistry, htree, hrewrites,
    executeNode_flatten ⟨.standard, registry, Template.resolver, ∅⟩ hrewrites ⟨tree, htree⟩⟩

end Playbook
