import Playbook.Proofs.LoopBinding
import Playbook.Proofs.Preparation

/-!
# Loops that set facts

A task that sets facts resolves its whole configuration before it writes any of it, so its writes
are one simultaneous assignment: every value sees the facts that the pass found, and none sees
another value of the same pass. A loop over such a task is a left fold of assignments, one for every
item, over items that were resolved before the first of them was bound.
-/

namespace Playbook

open Engine

/-! ## Assignments -/

theorem Json.mapLeavesOfFields_eq (f : String → String) (fields : List (String × Json)) :
    mapLeavesOfFields f fields = fields.map fun field ↦ (field.1, field.2.mapLeaves f) := by
  induction fields with
  | nil => rfl
  | cons field rest ih => rw [mapLeavesOfFields, ih, List.map_cons]

namespace Facts

/-- The facts overridden by a configuration whose strings are resolved against these facts. -/
def assign (resolver : Resolver) (config : Config) (facts : Facts) : Facts :=
  facts.merge (Json.mapLeavesOfFields (resolver.answer · facts) config)

/-- What one pass of a loop leaves: the assignment sees the item, and then the item is unbound. -/
def pass (resolver : Resolver) (config : Config) (facts : Facts) (item : Json) : Facts :=
  (assign resolver config (facts.insert loopItem item)).erase loopItem

variable {resolver : Resolver} {config : Config}

/-- Every value is resolved against the same facts, and of a key that is given twice the later value
stays. -/
theorem get?_assign (facts : Facts) (key : String) :
    (assign resolver config facts).get? key =
      ((Entries.lookup key config.reverse).map (Json.mapLeaves (resolver.answer · facts))).or
        (facts.get? key) := by
  rw [assign, merge, SortedMap.get?_insertMany, Json.mapLeavesOfFields_eq, ← List.map_reverse,
    Entries.lookup_map]

/-- Whatever the configuration writes, no pass leaves an item. -/
theorem unbound_foldl_pass {items : List Json} (hitems : items ≠ []) (facts : Facts) :
    Unbound (items.foldl (pass resolver config) facts) := by
  obtain ⟨before, last, rfl⟩ := (List.eq_nil_or_concat items).resolve_left hitems
  rw [List.concat_eq_append, List.foldl_append]
  exact unbound_erase _

end Facts

namespace Engine

open Resolving (Told Recites Becomes)

/-! ## Questions -/

/-- A string that is resolved, and the facts that it is resolved against. -/
abbrev Question := String × Facts

variable {context : Context}

def Question.Answered (context : Context) (question : Question) : Prop :=
  context.resolver.Resolves question.2 question.1

/-- After the calls an action asked these questions one after another. If all of them have answers
it ended with the value and the facts; otherwise it ended with the error of the first that has
none. -/
structure Poses {α : Type} (context : Context) (calls : List String) (questions : List Question)
    (value : α) (facts : Facts) (ended : Except ExecutionError α × Session) : Prop where
  answered (h : ∀ question ∈ questions, question.Answered context) :
    ended.1 = .ok value ∧ ended.2.facts = facts ∧
      ended.2.journal.calls = (questions.map (·.1)).reverse ++ calls
  stopped {before after : List Question} {question : Question} {error : ResolveError}
    (split : questions = before ++ question :: after)
    (earlier : ∀ found ∈ before, found.Answered context)
    (fails : context.resolver question.1 question.2 = .error error) :
    ended.1 = .error (.resolve error)

namespace Poses

variable {α β : Type} {calls : List String} {questions questions' : List Question} {value : α}
  {value' : β} {facts facts' : Facts} {s : Session}

/-- An action that asks nothing. -/
theorem silent {s' : Session} (hfacts : s'.facts = facts) (hcalls : s'.journal.calls = calls) :
    Poses context calls [] value facts (.ok value, s') where
  answered _ := ⟨rfl, hfacts, hcalls⟩
  stopped split := (List.append_ne_nil_of_right_ne_nil _ (List.cons_ne_nil _ _) split.symm).elim

/-- The questions of a second part come after those of the first, if it comes to them. -/
theorem append {first : Except ExecutionError α × Session}
    {ended : Except ExecutionError β × Session}
    (h : Poses context calls questions value facts first)
    (hrest : first.1 = .ok value → first.2.facts = facts →
      Poses context first.2.journal.calls questions' value' facts' ended)
    (hfails : ∀ error, first.1 = .error error → ended.1 = .error error) :
    Poses context calls (questions ++ questions') value' facts' ended where
  answered hall := by
    obtain ⟨hall, hall'⟩ := List.forall_mem_append.mp hall
    obtain ⟨hvalue, hfacts, hcalls⟩ := h.answered hall
    obtain ⟨hvalue', hfacts', hcalls'⟩ := (hrest hvalue hfacts).answered hall'
    refine ⟨hvalue', hfacts', ?_⟩
    rw [hcalls', hcalls, List.map_append, List.reverse_append, List.append_assoc]
  stopped split earlier fails := by
    -- Either all of the first part have answers, or the question without one is among them.
    rcases List.append_eq_append_iff.mp split with ⟨middle, rfl, hlater⟩ | ⟨middle, hfirst, hlater⟩
    · obtain ⟨hall, hmiddle⟩ := List.forall_mem_append.mp earlier
      obtain ⟨hvalue, hfacts, -⟩ := h.answered hall
      exact (hrest hvalue hfacts).stopped hlater hmiddle fails
    · rcases List.cons_eq_append_iff.mp hlater with ⟨rfl, rfl⟩ | ⟨others, rfl, -⟩
      · rw [List.append_nil] at hfirst
        subst hfirst
        obtain ⟨hvalue, hfacts, -⟩ := h.answered earlier
        exact (hrest hvalue hfacts).stopped (List.nil_append _).symm nofun fails
      · exact hfails _ (h.stopped hfirst earlier fails)

theorem bind {action : Acting ExecutionError α} {next : α → Acting ExecutionError β}
    (h : Poses context calls questions value facts (action.run s))
    (hnext : ∀ s', s'.facts = facts →
      Poses context s'.journal.calls questions' value' facts' ((next value).run s')) :
    Poses context calls (questions ++ questions') value' facts' ((action >>= next).run s) := by
  rcases hrun : action.run s with ⟨result, s'⟩
  rw [hrun] at h
  refine h.append (fun hvalue hfacts ↦ ?_) fun error herror ↦ ?_
  · obtain rfl : result = .ok value := hvalue
    rw [run_bind_of_ok hrun]
    exact hnext s' hfacts
  · obtain rfl : result = .error error := herror
    rw [run_bind_of_error hrun]

/-- A resolution asks for its strings with the facts of the session. -/
theorem resolving {resolve : Scope → Resolving α} {texts : List String}
    (h : ∃ asked result r', Told (context.scope s.facts) texts asked result ∧
      (∀ found, result = .ok found → found = value) ∧
      (resolve (context.scope s.facts)).run (.start s.journal.calls) = (result, r') ∧
      r'.calls = asked.reverse ++ s.journal.calls) :
    Poses context s.journal.calls (texts.map (·, s.facts)) value s.facts
      ((Acting.because ExecutionError.resolve (Acting.resolving context resolve)).run s) := by
  obtain ⟨asked, result, r', htold, hvalue, hrun, hcalls⟩ := h
  rw [because_run, resolving_run, hrun, hcalls]
  constructor
  · intro hall
    have hresolves : ∀ text ∈ texts, context.resolver.Resolves s.facts text :=
      fun text hmem ↦ hall (text, s.facts) (List.mem_map_of_mem hmem)
    cases result with
    | error error =>
      obtain ⟨before, text, after, rfl, -, -, hfails⟩ := htold
      have htext := hresolves text (List.mem_append_right before List.mem_cons_self)
      exact absurd htext (Resolver.not_resolves_of_error hfails)
    | ok found =>
      obtain rfl := hvalue found rfl
      obtain ⟨rfl, -⟩ := htold
      refine ⟨rfl, rfl, ?_⟩
      rw [List.map_map, Function.comp_def, List.map_id']
      rfl
  · intro before after question error split earlier fails
    obtain ⟨front, later, rfl, rfl, hlater⟩ := List.map_eq_append_iff.mp split
    obtain ⟨text, back, rfl, rfl, rfl⟩ := List.map_eq_cons_iff.mp hlater
    have hfront : ∀ text ∈ front, context.resolver.Resolves s.facts text :=
      fun text hmem ↦ earlier (text, s.facts) (List.mem_map_of_mem hmem)
    rw [htold.eq_error hfront fails]
    rfl

end Poses

/-! ## One pass -/

variable {tree : Tree} {slot : Slot} {element : Element} {chain : List Slot} {kind : String}
  {config : Config}

/-- A task that sets facts merges its configuration as it is told, and has no output. -/
theorem dispatch_setFact (runFile : RunFile) (spans : List String)
    (htask : element.task = some ⟨kind, config⟩)
    (hkind : context.registry.find kind = .ok .setFact) (environment : Environment) (s : Session) :
    ∃ s', (dispatch context runFile spans element environment).run s = (.ok (), s') ∧
      s'.facts = s.facts.merge config ∧ s'.journal.calls = s.journal.calls := by
  have hstore (s : Session) : (store spans element none).run s = (.ok (), s) := by
    unfold store
    cases element.register <;> rfl
  rw [dispatch, htask]
  dsimp only
  rw [hkind]
  exact ⟨_, hstore _, rfl, rfl⟩

/-- In one pass the strings of the element and of the variables around it are resolved against the
facts that the pass finds, and then the configuration is assigned. -/
theorem runOnce_setFact (hblock : element.isBlock = false) (hchain : tree.Around [] slot chain)
    (htask : element.task = some ⟨kind, config⟩)
    (hkind : context.registry.find kind = .ok .setFact) (runFile : RunFile) (child : Slot → Run)
    (spans : List String) (s : Session) :
    Poses context s.journal.calls ((textsFor tree chain element).map (·, s.facts)) ()
      (s.facts.assign context.resolver config)
      ((runOnce context runFile tree child spans slot element).run s) := by
  have hsnapshot := Poses.resolving (s := s) (snapshot_run (context.scope s.facts) hblock
    (r := .start s.journal.calls) hchain)
  have htask' : (element.mapLeaves (context.scope s.facts).answer).task =
      some ⟨kind, Json.mapLeavesOfFields (context.scope s.facts).answer config⟩ := by
    rw [Element.task_mapLeaves, htask]
    rfl
  rw [← List.append_nil ((textsFor tree chain element).map _)]
  refine hsnapshot.bind fun s₁ hfacts ↦ ?_
  have hisBlock : (element.mapLeaves (context.scope s.facts).answer).isBlock = false := hblock
  simp only [hisBlock, Bool.false_eq_true, if_false]
  obtain ⟨s', hrun, hmerged, hcalls⟩ := dispatch_setFact runFile spans htask' hkind
    (environmentFor tree (context.scope s.facts) chain element) s₁
  rw [hrun]
  refine .silent ?_ hcalls
  rw [hmerged, hfacts]
  rfl

/-! ## All passes -/

/-- What passes over items ask, each with the facts that it finds. -/
def questionsOver (resolver : Resolver) (config : Config) (texts : List String) :
    Facts → List Json → List Question
  | _, [] => []
  | facts, item :: rest =>
    texts.map (·, facts.insert Facts.loopItem item) ++
      questionsOver resolver config texts (facts.pass resolver config item) rest

theorem runItems_setFact {once : Run} {texts : List String}
    (honce : ∀ s : Session, Poses context s.journal.calls (texts.map (·, s.facts)) ()
      (s.facts.assign context.resolver config) (once.run s)) (items : List Json) (s : Session) :
    Poses context s.journal.calls (questionsOver context.resolver config texts s.facts items) ()
      (items.foldl (Facts.pass context.resolver config) s.facts) ((runItems once items).run s) := by
  induction items generalizing s with
  | nil => exact .silent rfl rfl
  | cons item rest ih =>
    have hpass := honce (s.setFact Facts.loopItem item)
    rcases hrun : once.run (s.setFact Facts.loopItem item) with ⟨result, after⟩
    rw [hrun] at hpass
    refine hpass.append (fun hvalue hfacts ↦ ?_) fun error herror ↦ ?_
    · obtain rfl : result = .ok () := hvalue
      have hrest := ih (after.removeFact Facts.loopItem)
      have hfound : (after.removeFact Facts.loopItem).facts =
          s.facts.pass context.resolver config item := congrArg (SortedMap.erase · _) hfacts
      rw [hfound] at hrest
      rw [runItems_of_ok hrun]
      exact hrest
    · obtain rfl : result = .error error := herror
      rw [runItems_of_error hrun]

/-- The strings of a list of items are resolved at once. -/
theorem loopItems_poses (items : List Json) (s : Session) :
    Poses context s.journal.calls ((Json.leavesOfItems items).map (·, s.facts))
      (Json.mapLeavesOfItems (context.resolver.answer · s.facts) items) s.facts
      ((loopItems context (.items items)).run s) := by
  have hresolution : Poses context s.journal.calls ((Json.leavesOfItems items).map (·, s.facts))
      (LoopSpec.items (Json.mapLeavesOfItems (context.resolver.answer · s.facts) items)) s.facts
      ((Acting.because ExecutionError.resolve
        (Acting.resolving context (LoopSpec.resolve · (.items items)))).run s) := by
    obtain ⟨asked, result, htold, hyields⟩ := Recites.loop (context.scope s.facts) (.items items)
    have hbecomes := Becomes.loop (context.scope s.facts) (.items items) (.start s.journal.calls)
    rw [hyields] at hbecomes
    exact Poses.resolving ⟨asked, result, _, htold, hbecomes, hyields _, rfl⟩
  rw [← List.append_nil (List.map _ _)]
  exact hresolution.bind fun s₁ hfacts ↦ .silent hfacts rfl

end Engine

/-- An element without guards that sets facts ends, if everything it asks has an answer, with the
facts overridden by its configuration, every value of which is resolved against the facts before.
In a loop this happens once for every item, one pass after another and each on the facts that the
one before left, and after each the item is unbound, also if the configuration writes it. The items
are resolved against the facts before the loop, whatever its passes write. -/
theorem execution_setFact (context : Context) (tree : Tree) (slot : Slot) (element : Element)
    (kind : String) (config : Config) (hget : tree.get? slot = some element)
    (hguards : element.guards = []) (hblock : element.isBlock = false)
    (htask : element.task = some ⟨kind, config⟩)
    (hkind : context.registry.find kind = .ok .setFact) :
    ∃ chain, (∀ found, tree.Around [] slot found ↔ found = chain) ∧
    ∀ (runFile : RunFile) (depth : Nat) (spans : List String) (s : Session),
      (∀ items, element.loop = some (.items items) → items ≠ [] →
        let values := Json.mapLeavesOfItems (context.resolver.answer · s.facts) items
        let final := values.foldl (Facts.pass context.resolver config) s.facts
        Poses context s.journal.calls ((Json.leavesOfItems items).map (·, s.facts) ++
            questionsOver context.resolver config (textsFor tree chain element) s.facts values)
          () final ((runElement context runFile tree (depth + 1) spans slot).run s) ∧
        final.Unbound) ∧
      (element.loop = none →
        Poses context s.journal.calls ((textsFor tree chain element).map (·, s.facts)) ()
          (s.facts.assign context.resolver config)
          ((runElement context runFile tree (depth + 1) spans slot).run s)) := by
  obtain ⟨chain, hchain⟩ := tree.exists_around [] slot
  refine ⟨chain, fun found ↦ ⟨hchain.unique, ?_⟩, fun runFile depth spans s ↦ ?_⟩
  · rintro rfl
    exact hchain
  have hholds : (holds context (spans ++ [element.displayName]) element.guards).run s =
      (.ok true, s) := by
    rw [hguards]
    rfl
  have honce := runOnce_setFact hblock hchain htask hkind runFile
    (runElement context runFile tree depth (spans ++ [element.displayName]))
    (spans ++ [element.displayName])
  constructor
  · intro items hloop hitems values final
    have hvalues : values ≠ [] := by
      cases items with
      | nil => exact absurd rfl hitems
      | cons item rest => exact List.cons_ne_nil _ _
    refine ⟨?_, Facts.unbound_foldl_pass hvalues s.facts⟩
    rw [runElement, hget]
    simp only [hloop]
    rw [run_bind_of_ok hholds, if_pos rfl]
    refine (loopItems_poses items s).bind fun s₁ hfacts ↦ ?_
    have hpasses := runItems_setFact honce values
      (s₁.logged ⟨.debug, "Starting loop", spans ++ [element.displayName]⟩)
    have hfound : (s₁.logged ⟨.debug, "Starting loop", spans ++ [element.displayName]⟩).facts =
        s.facts := hfacts
    rw [hfound] at hpasses
    exact hpasses
  · intro hloop
    rw [runElement_of_holds runFile depth hget rfl hholds hloop]
    exact honce s

/-- Answers the name of a fact that is a string with that string. -/
def namingResolver : Resolver := fun text facts ↦
  match facts.get? text with
  | some (.str found) => .ok found
  | _ => .ok text

theorem namingResolver_resolves (facts : Facts) (text : String) :
    namingResolver.Resolves facts text := by
  unfold Resolver.Resolves namingResolver
  split <;> exact ⟨_, rfl⟩

/-- A loop that hands its items on from one fact to another, in a tree made by hand, and writes the
list and the item as well. -/
def handingTree : Tree :=
  ⟨#[{ Element.bare none with
    loop := some (.items [.str "list", .str "y"])
    task := some ⟨"set_fact",
      [("a", .str "item"), ("b", .str "a"), ("item", .str "b"), ("list", .str "item")]⟩ }], [0]⟩

def handingContext : Context :=
  ⟨.standard, ⟨.ofList [("set_fact", .setFact)]⟩, namingResolver, ∅⟩

def handingSession : Session :=
  { Session.start .standard (.initial []) with
    facts := .ofList [("item", .str "outer"), ("list", .str "x")] }

/-- The second fact is always a pass behind the first, and the first item is what the list was
before the loop. -/
theorem execution_setFact_handing :
    ∃ s', (runElement handingContext (runFile handingContext) handingTree 1 [] 0).run
        handingSession = (.ok (), s') ∧
      s'.facts.same (.ofList [("a", .str "y"), ("b", .str "x"), ("list", .str "y")]) = true ∧
      s'.facts.Unbound ∧
      s'.journal.calls = ["item", "b", "a", "item", "y", "list",
        "item", "b", "a", "item", "y", "list", "y", "list"] := by
  obtain ⟨chain, hchain, hruns⟩ := execution_setFact handingContext handingTree 0 _ "set_fact" _
    rfl rfl rfl rfl rfl
  have hempty : handingTree.Around [] 0 [] := .climb nofun .top
  obtain rfl := (hchain []).mp hempty
  obtain ⟨hposes, hunbound⟩ := (hruns (runFile handingContext) 0 [] handingSession).1 _ rfl
    (List.cons_ne_nil _ _)
  generalize (runElement handingContext (runFile handingContext) handingTree (0 + 1) [] 0).run
    handingSession = ended at hposes ⊢
  obtain ⟨result, s'⟩ := ended
  obtain ⟨rfl, hfacts, hcalls⟩ := hposes.answered fun question _ ↦
    namingResolver_resolves question.2 question.1
  have hfinal : s'.facts.same (.ofList [("a", .str "y"), ("b", .str "x"), ("list", .str "y")]) := by
    rw [hfacts]
    decide +kernel
  refine ⟨s', rfl, hfinal, hfacts ▸ hunbound, ?_⟩
  rw [hcalls]
  decide +kernel

end Playbook
