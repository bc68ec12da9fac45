import Playbook.Proofs.Nesting

/-!
# Where templates come from

Data never becomes a template. Whatever a resolver answers and whatever the facts, the files and
the outputs of tasks are, a run asks the resolver only for strings as they stand in the playbooks
that it read, and for the files that its template tasks read. Only tasks that render a text from
their configuration ask for something else, so they are left out.

What was asked and read since a session began is told by its journal, which only grows.
-/

namespace Playbook

open Engine
open Acting (Agree)

/-! ## Registered kinds -/

theorem Registry.find_register {registry after : Registry} {kind found : TaskKind} {name : String}
    (h : registry.register kind = .ok after) (hfind : after.find name = .ok found) :
    found = kind ∨ registry.find name = .ok found := by
  unfold Registry.register at h
  split at h
  · cases h
  · split at h
    · cases h
    · obtain rfl := Except.ok.inj h
      unfold Registry.find SortedMap.get? SortedMap.insert at hfind
      by_cases hname : name = kind.name
      · subst hname
        rw [Entries.lookup_insert_self] at hfind
        exact .inl (Except.ok.inj hfind).symm
      · rw [Entries.lookup_insert_ne hname] at hfind
        exact .inr hfind

/-- A registry has only the kinds that were registered. -/
theorem Registry.mem_of_registerAll {kinds : List TaskKind} {registry after : Registry}
    {found : TaskKind} {name : String} (h : registry.registerAll kinds = .ok after)
    (hfind : after.find name = .ok found) : found ∈ kinds ∨ registry.find name = .ok found := by
  induction kinds generalizing registry with
  | nil =>
    obtain rfl := Except.ok.inj h
    exact .inr hfind
  | cons kind rest ih =>
    unfold Registry.registerAll at h
    split at h
    · next next hregister =>
      rcases ih h with hmem | hearlier
      · exact .inl (List.mem_cons_of_mem _ hmem)
      · rcases Registry.find_register hregister hearlier with rfl | hbefore
        · exact .inl List.mem_cons_self
        · exact .inr hbefore
    · cases h

theorem Registry.mem_of_ofKinds {kinds : List TaskKind} {registry : Registry} {found : TaskKind}
    {name : String} (h : Registry.ofKinds kinds = .ok registry)
    (hfind : registry.find name = .ok found) : found ∈ kinds := by
  rcases Registry.mem_of_registerAll h hfind with hmem | hempty
  · exact hmem
  · cases hempty

/-! ## Accounts of what was asked -/

/-- The string stands in the playbook as a name, a guard, a registered name, a variable, in the
source of a loop or in the configuration of a task. -/
def Registry.Wrote (registry : Registry) (playbook string : String) : Prop :=
  ∃ tree, Document.ofText registry playbook = .ok tree ∧ string ∈ tree.leaves

/-- The text that a run starts with, if any. -/
def Entry.own : Entry → Option String
  | .text content => some content
  | .file _ | .playbook _ => none

/-- A run that started with `own` ran the playbook with this text, as far as it read these files. -/
def IsRun (own : Option String) (reads : List Reading) (playbook : String) : Prop :=
  own = some playbook ∨ ∃ path, ⟨.playbook, path, .ok playbook⟩ ∈ reads

/-- The string stands in a playbook that was run, or is a template file that was read. -/
def IsTemplate (registry : Registry) (own : Option String) (reads : List Reading)
    (string : String) : Prop :=
  (∃ playbook, IsRun own reads playbook ∧ registry.Wrote playbook string) ∨
    ∃ path, ⟨.template, path, .ok string⟩ ∈ reads

/-- Since `s` only templates were asked for; the calls and the files since then are `calls` and
`reads`. -/
def Accounts (registry : Registry) (own : Option String) (s s' : Session) (calls : List String)
    (reads : List Reading) : Prop :=
  s'.journal.calls = calls ++ s.journal.calls ∧ s'.journal.reads = reads ++ s.journal.reads ∧
    ∀ string ∈ calls, IsTemplate registry own reads string

variable {registry : Registry} {own : Option String} {reads : List Reading} {reading : Reading}

theorem IsRun.cons {playbook : String} (h : IsRun own reads playbook) :
    IsRun own (reading :: reads) playbook := by
  rcases h with hown | ⟨path, hmem⟩
  · exact .inl hown
  · exact .inr ⟨path, List.mem_cons_of_mem _ hmem⟩

theorem IsTemplate.cons {string : String} (h : IsTemplate registry own reads string) :
    IsTemplate registry own (reading :: reads) string := by
  rcases h with ⟨playbook, hrun, hwrote⟩ | ⟨path, hmem⟩
  · exact .inl ⟨playbook, hrun.cons, hwrote⟩
  · exact .inr ⟨path, List.mem_cons_of_mem _ hmem⟩

namespace Accounts

variable {s s' : Session} {calls : List String}

theorem refl (registry : Registry) (own : Option String) (s : Session) :
    Accounts registry own s s [] [] :=
  ⟨rfl, rfl, nofun⟩

theorem read (h : Accounts registry own s s' calls reads) (reading : Reading) :
    Accounts registry own s (s'.withRead reading) calls (reading :: reads) :=
  ⟨h.1, congrArg (reading :: ·) h.2.1, fun string hmem ↦ (h.2.2 string hmem).cons⟩

theorem ask (h : Accounts registry own s s' calls reads) {string : String}
    (hstring : IsTemplate registry own reads string) :
    Accounts registry own s (s'.withCalls (string :: s'.journal.calls)) (string :: calls)
      reads := by
  refine ⟨congrArg (string :: ·) h.1, h.2.1, fun found hmem ↦ ?_⟩
  rcases List.mem_cons.mp hmem with rfl | hearlier
  · exact hstring
  · exact h.2.2 found hearlier

end Accounts

/-- What a run may rely on inside files with these texts: they are among those it ran. -/
def Accounted (registry : Registry) (own : Option String) (s : Session) (playbooks : List String)
    (s' : Session) : Prop :=
  ∃ calls reads, Accounts registry own s s' calls reads ∧
    ∀ playbook ∈ playbooks, IsRun own reads playbook

/-- Inside files a run asks for the strings in them. -/
def Nesting.accounts (context : Context)
    (hrender : ∀ name, context.registry.find name ≠ .ok .render) (own : Option String)
    (s : Session) : Nesting context (Nat × List String) where
  holds stack s' := s'.depth = stack.1 ∧ Accounted context.registry own s stack.2 s'
  asks stack string := ∃ playbook ∈ stack.2, context.registry.Wrote playbook string
  depth stack := stack.1
  inside stack playbook := (stack.1 + 1, playbook :: stack.2)
  upheld stack :=
    { logged := fun _ _ hs ↦ hs
      noted := fun _ _ hs ↦ hs
      facts := fun _ _ hs ↦ hs
      files := fun _ _ hs ↦ hs
      cancelled := fun _ hs ↦ hs
      asked := by
        rintro s' string ⟨playbook, hmem, hwrote⟩ ⟨hdepth, calls, reads, haccounts, hrun⟩
        have hstring := haccounts.ask (.inl ⟨playbook, hrun playbook hmem, hwrote⟩)
        exact ⟨hdepth, _, reads, hstring, hrun⟩
      unread := by
        rintro s' path fault ⟨hdepth, calls, reads, haccounts, hrun⟩
        exact ⟨hdepth, calls, _, haccounts.read _, fun playbook hmem ↦ (hrun playbook hmem).cons⟩
      template := by
        rintro s' path string ⟨hdepth, calls, reads, haccounts, hrun⟩
        have hstring := (haccounts.read ⟨.template, path, .ok string⟩).ask
          (.inr ⟨path, List.mem_cons_self⟩)
        exact ⟨hdepth, _, _, hstring, fun playbook hmem ↦ (hrun playbook hmem).cons⟩
      rendered := fun ⟨name, hfind⟩ ↦ (hrender name hfind).elim }
  depth_eq _ _ hs := hs.1
  depth_inside _ _ := rfl
  read := by
    rintro stack s' path content ⟨hdepth, calls, reads, haccounts, hrun⟩
    exact ⟨hdepth, calls, _, haccounts.read _, fun playbook hmem ↦ (hrun playbook hmem).cons⟩
  opened := by
    rintro stack s' path playbook ⟨hdepth, calls, reads, haccounts, hrun⟩ -
    refine ⟨congrArg (· + 1) hdepth, calls, _, haccounts.read ⟨.playbook, path, .ok playbook⟩, ?_⟩
    intro found hmem
    rcases List.mem_cons.mp hmem with rfl | houter
    · exact .inr ⟨path, List.mem_cons_self⟩
    · exact (hrun found houter).cons
  closed := by
    rintro stack s' playbook ⟨hdepth, calls, reads, haccounts, hrun⟩
    refine ⟨congrArg (· - 1) hdepth, calls, reads, haccounts, fun found hmem ↦ ?_⟩
    exact hrun found (List.mem_cons_of_mem _ hmem)
  written stack playbook tree hparse string hmem :=
    ⟨playbook, List.mem_cons_self, tree, hparse, hmem⟩

/-- A run asks only for templates: strings of playbooks that it ran, and template files that it
read. A watch that does nothing as long as this is so changes nothing, so it is so at every
moment. -/
theorem execute_asks_templates (context : Context) {kinds : List TaskKind}
    (hkinds : Registry.ofKinds kinds = .ok context.registry) (hrender : .render ∉ kinds)
    (entry : Entry) (s : Session) :
    (∀ watch : Watch, (∀ found opened calls reads,
        Accounts context.registry entry.own s found calls reads →
        (watch.moment opened).run found = (.ok (), found)) →
      (watch.execute context entry).run s = (entry.execute context).run s) ∧
    ∀ result s', (entry.execute context).run s = (result, s') →
      ∃ calls reads, Accounts context.registry entry.own s s' calls reads := by
  have hfind : ∀ name, context.registry.find name ≠ .ok .render := fun name hname ↦
    hrender (Registry.mem_of_ofKinds hkinds hname)
  let nesting := Nesting.accounts context hfind entry.own s
  let stack : Nat × List String := (s.depth, entry.own.toList)
  have hstart : nesting.holds stack s := by
    refine ⟨rfl, [], [], .refl _ _ _, fun playbook hmem ↦ .inl ?_⟩
    exact Option.mem_toList.mp hmem
  have hwritten : ∀ playbook, entry = .text playbook → ∀ tree,
      Document.ofText context.registry playbook = .ok tree →
      ∀ leaf ∈ tree.leaves, nesting.asks stack leaf := by
    rintro playbook rfl tree hparse leaf hmem
    exact ⟨playbook, List.mem_singleton_self _, tree, hparse, hmem⟩
  have hagree (watch : Watch) (hmoment : ∀ found opened calls reads,
      Accounts context.registry entry.own s found calls reads →
      (watch.moment opened).run found = (.ok (), found)) :
      Agree (nesting.holds stack) (watch.execute context entry) (entry.execute context)
        (fun _ ↦ nesting.holds stack) fun _ ↦ nesting.holds stack := by
    have hquiet : ∀ inner found opened, nesting.holds inner found →
        nesting.depth inner = nesting.depth stack + opened →
        (watch.moment opened).run found = (.ok (), found) := by
      rintro inner found opened ⟨-, calls, reads, haccounts, -⟩ -
      exact hmoment found opened calls reads haccounts
    exact (nesting.execute_agree hquiet hwritten).imp_bad fun _ _ hs ↦ hs.2
  refine ⟨fun watch hmoment ↦ (hagree watch hmoment).run_eq hstart, fun result s' hrun ↦ ?_⟩
  obtain ⟨-, calls, reads, haccounts, -⟩ :=
    (hagree .idle fun _ _ _ _ _ ↦ rfl).of_run hstart hrun
  exact ⟨calls, reads, haccounts⟩

/-- A resolver whose answers look like templates themselves. -/
def bracingResolver : Resolver := fun text _ ↦ .ok ("\x7b\x7b " ++ text ++ " \x7d\x7d")

def bracedPlaybook : String :=
  "- echo: \x7bmsg: a\x7d\n  register: b\n- merge_facts: \x7bc: d\x7d\n  loop: \x7bitems: [e]\x7d\n"

def quietKinds : List TaskKind :=
  TaskKind.standard ++ [.mergeFacts, .echo, .env, .fail, .badInit, .snapshot, .cancel, .cancelled]

/-- The answers for `a` and `e` become facts, and are not asked for again. -/
theorem execute_asks_templates_braced : ∃ registry result s' reads,
    Registry.ofKinds quietKinds = .ok registry ∧ .render ∉ quietKinds ∧
      ((Entry.text bracedPlaybook).execute ⟨.standard, registry, bracingResolver, ∅⟩).run
        (.start .standard (.initial [])) = (result, s') ∧
      Accounts registry (some bracedPlaybook) (.start .standard (.initial [])) s'
        ["d", "e", "e", "a", "b"] reads := by
  have hcalls : ∃ registry, Registry.ofKinds quietKinds = .ok registry ∧
      (((Entry.text bracedPlaybook).execute ⟨.standard, registry, bracingResolver, ∅⟩).run
        (.start .standard (.initial []))).2.journal.calls = ["d", "e", "e", "a", "b"] := by
    refine ⟨_, rfl, ?_⟩
    decide +kernel
  have hrender : .render ∉ quietKinds := by
    decide
  obtain ⟨registry, hregistry, hcalls⟩ := hcalls
  rcases hrun : ((Entry.text bracedPlaybook).execute
    ⟨.standard, registry, bracingResolver, ∅⟩).run (.start .standard (.initial []))
    with ⟨result, s'⟩
  rw [hrun] at hcalls
  obtain ⟨calls, reads, haccounts⟩ := (execute_asks_templates
    ⟨.standard, registry, bracingResolver, ∅⟩ hregistry hrender (.text bracedPlaybook)
    (.start .standard (.initial []))).2 result s' hrun
  have heq : calls = ["d", "e", "e", "a", "b"] := by
    have hall : calls ++ [] = ["d", "e", "e", "a", "b"] := haccounts.1.symm.trans hcalls
    rwa [List.append_nil] at hall
  subst heq
  exact ⟨registry, result, s', reads, hregistry, hrender, hrun, haccounts⟩

end Playbook
