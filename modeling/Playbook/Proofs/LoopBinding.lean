import Playbook.Proofs.Footprint

/-!
# The item of a loop

A loop binds its items under one name, in the store that everything shares, and unbinds them again
after every pass. So after a loop that had items nothing is bound under that name, whatever its
passes did and however they ended; and a loop that does not come to that leaves the facts alone. If
the name is free at first and no task outside of loops writes it, it is free at the end.
-/

namespace Playbook

open Engine
open Acting (Agree Ensures)

/-- No fact stands under the name that loops bind. -/
def Facts.Unbound (facts : Facts) : Prop :=
  facts.get? loopItem = none

theorem Facts.unbound_erase (facts : Facts) : Unbound (facts.erase loopItem) := by
  rw [Unbound, SortedMap.get?_erase, if_pos rfl]

/-- After any number of items but none, whatever their passes do, the name is free. -/
theorem Engine.runItems_unbinds {items : List Json} (hitems : items ≠ []) (once : Run) :
    Ensures (fun _ ↦ True) (runItems once items) (fun _ s ↦ s.facts.Unbound)
      (fun _ s ↦ s.facts.Unbound) := by
  induction items with
  | nil => exact (hitems rfl).elim
  | cons item rest ih =>
    have hbind : Ensures (fun _ ↦ True)
        (modify (·.setFact Facts.loopItem item) : Acting ExecutionError PUnit) (fun _ _ ↦ True)
        (fun _ s ↦ s.facts.Unbound) := Agree.modify fun _ _ ↦ trivial
    have hpass : Ensures (fun _ ↦ True)
        (Acting.attempt once : Acting ExecutionError (Except ExecutionError Unit)) (fun _ _ ↦ True)
        (fun _ s ↦ s.facts.Unbound) :=
      fun s _ ↦ .inl ⟨_, _, attempt_run once s, attempt_run once s, trivial⟩
    have hunbind : Ensures (fun _ ↦ True)
        (modify (·.removeFact Facts.loopItem) : Acting ExecutionError PUnit)
        (fun _ s ↦ s.facts.Unbound) (fun _ s ↦ s.facts.Unbound) :=
      Agree.modify fun s _ ↦ s.facts.unbound_erase
    refine hbind.bind fun _ ↦ hpass.bind fun result ↦ hunbind.bind fun _ ↦ ?_
    cases result with
    | error error => exact Agree.throw fun s hs ↦ hs
    | ok value =>
      cases rest with
      | nil => exact Agree.pure fun s hs ↦ hs
      | cons next others => exact (ih nofun).of_imp fun _ _ ↦ trivial

/-! ## An element with a loop -/

variable {context : Context} {spec : LoopSpec} {s s' : Session} {spans : List String}

theorem Engine.holds_facts {guards : List String} {passed : Except ExecutionError Bool}
    (h : (holds context spans guards).run s = (passed, s')) : s'.facts = s.facts := by
  have hsteady := Steady.of_depth_facts context fun _ facts ↦ facts = s.facts
  have hkeeps : Ensures (fun s' ↦ s'.facts = s.facts) (holds context spans guards)
      (fun _ s' ↦ s'.facts = s.facts) (fun _ s' ↦ s'.facts = s.facts) :=
    hsteady.holds spans fun _ _ ↦ trivial
  exact hkeeps.of_run rfl h

theorem Engine.loopItems_facts {items : Except ExecutionError (List Json)}
    (h : (loopItems context spec).run s = (items, s')) : s'.facts = s.facts := by
  have hsteady := Steady.of_depth_facts context fun _ facts ↦ facts = s.facts
  have hkeeps : Acting.Keeps (fun s' ↦ s'.facts = s.facts) (·.Arises fun _ ↦ True)
      (loopItems context spec) := hsteady.loopItems fun _ _ ↦ trivial
  exact (hkeeps.imp_bad fun _ _ hs ↦ hs.2).of_run rfl h

/-- Guards always come to an answer. -/
theorem Engine.holds_ok (context : Context) (spans guards : List String) (s : Session) :
    ∃ passed s', (holds context spans guards).run s = (.ok passed, s') := by
  have hsteady := Steady.of_depth_facts context fun _ _ ↦ True
  have hnever : Ensures (fun _ ↦ True) (holds context spans guards) (fun _ _ ↦ True)
      (fun _ _ ↦ False) := hsteady.holds spans fun _ _ ↦ trivial
  rcases hnever s trivial with ⟨passed, s', hrun, -, -⟩ | ⟨_, _, -, -, hfalse⟩
  · exact ⟨passed, s', hrun⟩
  · exact hfalse.elim

/-- Items that an element goes through are unbound in the end, and without any the facts stay. -/
theorem Engine.runElement_unbinds (runFile : RunFile) {tree : Tree} {slot : Slot}
    {element : Element} (hget : tree.get? slot = some element) (hloop : element.loop = some spec)
    (depth : Nat) {s₁ s₂ : Session} {passed : Bool} {source : Except ExecutionError (List Json)}
    {result : Except ExecutionError Unit}
    (hguards : (holds context (spans ++ [element.displayName]) element.guards).run s =
      (.ok passed, s₁))
    (hsource : (loopItems context spec).run s₁ = (source, s₂))
    (hrun : (runElement context runFile tree (depth + 1) spans slot).run s = (result, s')) :
    (∀ items, passed = true → source = .ok items → items ≠ [] → s'.facts.Unbound) ∧
      (passed = false ∨ (∃ error, source = .error error) ∨ source = .ok [] →
        s'.facts = s.facts) := by
  have hfacts₁ := holds_facts hguards
  have hfacts₂ : s₂.facts = s.facts := (loopItems_facts hsource).trans hfacts₁
  have hlog (message : String) (s : Session) :
      (Acting.log (spans ++ [element.displayName]) .debug message : Run).run s =
        (.ok (), s.logged ⟨.debug, message, spans ++ [element.displayName]⟩) := rfl
  rw [runElement, hget] at hrun
  simp only [hloop] at hrun
  rw [run_bind_of_ok hguards] at hrun
  cases passed with
  | false =>
    rw [if_neg Bool.false_ne_true, hlog] at hrun
    obtain ⟨-, rfl⟩ := Prod.mk.inj hrun
    exact ⟨fun _ hpassed ↦ absurd hpassed Bool.false_ne_true, fun _ ↦ hfacts₁⟩
  | true =>
    rw [if_pos rfl] at hrun
    cases source with
    | error error =>
      rw [run_bind_of_error hsource] at hrun
      obtain ⟨-, rfl⟩ := Prod.mk.inj hrun
      refine ⟨fun _ _ herror ↦ ?_, fun _ ↦ hfacts₂⟩
      cases herror
    | ok items =>
      rw [run_bind_of_ok hsource, run_bind_of_ok (hlog _ _)] at hrun
      constructor
      · rintro found - hfound hitems
        obtain rfl := Except.ok.inj hfound
        exact (runItems_unbinds hitems _).of_run trivial hrun
      · rintro (hfalse | ⟨error, herror⟩ | hnone)
        · cases hfalse
        · cases herror
        · obtain rfl := Except.ok.inj hnone
          obtain ⟨-, rfl⟩ := Prod.mk.inj hrun
          exact hfacts₂

/-! ## Whole runs -/

/-- Outside of loops no task writes the name that loops bind. -/
def SparesItem (trace : List Step) : Prop :=
  ∀ told, .write false told ∈ trace → Facts.loopItem ∉ told.names

/-- Outside of loops nothing is bound, and no task writes the name. -/
def Contract.freeItem : Contract where
  holds looped facts := looped = false → facts.Unbound
  allows looped told := looped = false → Facts.loopItem ∉ told.names
  register looped name value facts hallowed h hlooped := by
    have hne : Facts.loopItem ≠ name := fun heq ↦ hallowed hlooped (heq ▸ List.mem_cons_self)
    rw [Facts.Unbound, SortedMap.get?_insert, if_neg hne]
    exact h hlooped
  merge looped fields facts hallowed h hlooped := by
    have hnone : Entries.lookup Facts.loopItem fields.reverse = none := by
      refine Entries.lookup_eq_none fun field hmem heq ↦ hallowed hlooped ?_
      exact List.mem_map.mpr ⟨field, List.mem_reverse.mp hmem, heq.symm⟩
    rw [Facts.Unbound, Facts.merge, SortedMap.get?_insertMany, hnone, Option.none_or]
    exact h hlooped
  bound _ _ _ _ hlooped := nomatch hlooped
  unbound _ facts _ _ := facts.unbound_erase

theorem SparesItem.allows {trace : List Step} (h : SparesItem trace) (looped : Bool) (told : Write)
    (hmem : .write looped told ∈ trace) : Contract.freeItem.allows looped told := by
  rintro rfl
  exact h told hmem

/-- After an element with a loop that had items nothing is bound, and after one that had none the
facts are as before. So a call outside of loops, in whatever tree, and a whole run leave the name
free if it was free and no task outside of loops wrote it. -/
theorem execute_unbinds (context : Context) :
    (∀ (runFile : RunFile) (tree : Tree) (slot : Slot) (element : Element) (spec : LoopSpec),
      tree.get? slot = some element → element.loop = some spec →
      ∀ (depth : Nat) (spans : List String) (s : Session), ∃ passed s₁,
        (holds context (spans ++ [element.displayName]) element.guards).run s = (.ok passed, s₁) ∧
        ∀ source s₂ result s', (loopItems context spec).run s₁ = (source, s₂) →
          (runElement context runFile tree (depth + 1) spans slot).run s = (result, s') →
          (∀ items, passed = true → source = .ok items → items ≠ [] → s'.facts.Unbound) ∧
          (passed = false ∨ (∃ error, source = .error error) ∨ source = .ok [] →
            s'.facts = s.facts)) ∧
    (∀ (world : World) (callee : Call) (s : Session) (history trace : List Step) (reply : Reply),
      callee.site.looped = false → s.facts.Unbound →
      Follows context world history (callee.course context s) trace reply → SparesItem trace →
      reply.2.facts.Unbound) ∧
    ∀ (entry : Entry) (s s' : Session) (result : Except ExecutionError Unit), s.facts.Unbound →
      (entry.execute context).run s = (result, s') →
      ∃ trace, Follows context .quiet [] (entry.course context s) trace (result, s') ∧
        (SparesItem trace → s'.facts.Unbound) := by
  refine ⟨?_, ?_, ?_⟩
  · intro runFile tree slot element spec hget hloop depth spans s
    obtain ⟨passed, s₁, hguards⟩ :=
      holds_ok context (spans ++ [element.displayName]) element.guards s
    refine ⟨passed, s₁, hguards, fun source s₂ result s' hsource hrun ↦ ?_⟩
    exact runElement_unbinds runFile hget hloop depth hguards hsource hrun
  · intro world callee s history trace reply hlooped hs hfollows hspares
    have hkept := hfollows.ends .freeItem hspares.allows
      (Contract.freeItem.call_meets callee fun _ ↦ hs)
    exact hkept.2 hlooped
  · intro entry s s' result hs hrun
    obtain ⟨trace, hfollows⟩ := Entry.follows_of_run hrun
    refine ⟨trace, hfollows, fun hspares ↦ ?_⟩
    have hkept := hfollows.ends .freeItem hspares.allows
      (Contract.freeItem.entry_meets entry fun _ ↦ hs)
    exact hkept.2 rfl

/-- Passes that write the name themselves, around a loop of their own, and then fail. -/
def bindingText : String :=
  "- \x7bloop: \x7bitems: [1, 2]\x7d, block: [\x7bset_fact: \x7bitem: x\x7d\x7d, " ++
    "\x7becho: \x7bmsg: m\x7d, register: item, loop: \x7bitems: [3]\x7d\x7d, " ++
    "\x7bset_fact: \x7bitem: y\x7d\x7d, \x7bfail: \x7b\x7d\x7d]\x7d\n"

/-- An element with a loop and nothing to do. -/
def bindingTree : Tree :=
  ⟨#[{ Element.bare none with loop := some (.items [.bool true]) }], [0]⟩

def Step.sparesItem : Step → Bool
  | .write false told => !told.names.contains Facts.loopItem
  | _ => true

theorem sparesItem_of_all {trace : List Step} (h : trace.all Step.sparesItem = true) :
    SparesItem trace := by
  intro told hmem hname
  have hspares : (Step.write false told).sparesItem = true := List.all_eq_true.mp h _ hmem
  simp [Step.sparesItem, hname] at hspares

/-- What the passes wrote is gone with the item, and an item that was there before is gone too. -/
theorem execute_unbinds_failing : ∃ registry error s' trace,
    Registry.ofKinds (TaskKind.standard ++ TaskKind.observers) = .ok registry ∧
      ((Entry.text bindingText).execute ⟨.standard, registry, Template.resolver, ∅⟩).run
        (.start .standard (.initial ["work"])) = (.error error, s') ∧
      Follows ⟨.standard, registry, Template.resolver, ∅⟩ .quiet []
        ((Entry.text bindingText).course ⟨.standard, registry, Template.resolver, ∅⟩
          (.start .standard (.initial ["work"]))) trace (.error error, s') ∧
      written trace = ["item", "item", "item"] ∧ SparesItem trace ∧ s'.facts.Unbound ∧
      ∀ result after,
        (runElement ⟨.standard, registry, Template.resolver, ∅⟩ (fun _ _ ↦ return ()) bindingTree 1
          [] 0).run (writingSession.setFact Facts.loopItem .null) = (result, after) →
        after.facts.Unbound := by
  have hfollow : ∃ registry,
      Registry.ofKinds (TaskKind.standard ++ TaskKind.observers) = .ok registry ∧
      ((stoppedTrace? (followText ⟨.standard, registry, Template.resolver, ∅⟩ 16 bindingText
        (.start .standard (.initial ["work"])))).any fun trace ↦
          written trace == ["item", "item", "item"] && trace.all Step.sparesItem) = true := by
    refine ⟨_, rfl, ?_⟩
    decide +kernel
  obtain ⟨registry, hregistry, h⟩ := hfollow
  obtain ⟨trace, hstopped, h⟩ := (Option.any_eq_true _ _).mp h
  obtain ⟨error, s', hfound⟩ := eq_some_of_stoppedTrace? hstopped
  obtain ⟨hwritten, hspares⟩ := Bool.and_eq_true_iff.mp h
  have hfollows := follows_of_followText hfound
  have hrun := Entry.run_eq_of_follows hfollows
  obtain ⟨helement, -, hentry⟩ :=
    execute_unbinds ⟨.standard, registry, Template.resolver, ∅⟩
  have hstart : (Session.start .standard (.initial ["work"])).facts.Unbound := rfl
  obtain ⟨trace', hfollows', hunbound⟩ := hentry _ _ _ _ hstart hrun
  obtain ⟨rfl, -⟩ := hfollows.unique hfollows'
  refine ⟨registry, error, s', trace', hregistry, hrun, hfollows', eq_of_beq hwritten,
    sparesItem_of_all hspares, hunbound (sparesItem_of_all hspares), fun result after hafter ↦ ?_⟩
  obtain ⟨passed, s₁, hguards, hloop⟩ := helement (fun _ _ ↦ return ()) bindingTree 0 _ _ rfl rfl
    0 [] (writingSession.setFact Facts.loopItem .null)
  obtain ⟨hpassed, rfl⟩ := Prod.mk.inj hguards
  obtain rfl := Except.ok.inj hpassed
  exact (hloop _ _ result after rfl hafter).1 _ rfl rfl (List.cons_ne_nil _ _)

end Playbook
