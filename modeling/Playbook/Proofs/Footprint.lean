import Playbook.Proofs.Overlay
import Playbook.Proofs.Termination
import Playbook.Template.Engine

/-!
# What runs write

All files of a run share one store of facts, and three things write to it: a loop binds its item, a
task registers its output, and a task merges its fields. So after a run, however it ended, a fact
that none of these names has is as it was before. Only the item of a loop is ever removed.
-/

namespace Playbook

/-- The names that a step writes. -/
def Step.names : Step → List String
  | .call _ => []
  | .write _ told => told.names

/-- The names that a run wrote, apart from the item of a loop. -/
def written (trace : List Step) : List String :=
  trace.flatMap Step.names

theorem subset_written {trace : List Step} {looped : Bool} {told : Write}
    (h : .write looped told ∈ trace) : told.names ⊆ written trace :=
  fun _ hname ↦ List.mem_flatMap.mpr ⟨_, h, hname⟩

/-- Facts with other names are the same, and no fact is lost, apart from the item of a loop. -/
structure Facts.Footprint (names : List String) (facts facts' : Facts) : Prop where
  same : ∀ name, name ∉ loopItem :: names → facts'.get? name = facts.get? name
  kept : ∀ name, name ≠ loopItem → (facts.get? name).isSome → (facts'.get? name).isSome

namespace Facts.Footprint

variable {names : List String} {facts facts' : Facts}

theorem refl (names : List String) (facts : Facts) : Footprint names facts facts :=
  ⟨fun _ _ ↦ rfl, fun _ _ h ↦ h⟩

theorem insert (h : Footprint names facts facts') {name : String} (hname : name ∈ loopItem :: names)
    (value : Json) : Footprint names facts (facts'.insert name value) where
  same other hother := by
    have hne : other ≠ name := fun heq ↦ hother (heq ▸ hname)
    rw [SortedMap.get?_insert, if_neg hne, h.same other hother]
  kept other hother hsome := by
    rw [SortedMap.get?_insert]
    split
    · rfl
    · exact h.kept other hother hsome

theorem merge (h : Footprint names facts facts') {fields : Config}
    (hfields : ∀ name ∈ fields.map (·.1), name ∈ names) :
    Footprint names facts (Facts.merge facts' fields) := by
  induction fields generalizing facts' with
  | nil => exact h
  | cons field rest ih =>
    have hfirst : field.1 ∈ loopItem :: names :=
      List.mem_cons_of_mem _ (hfields _ List.mem_cons_self)
    exact ih (h.insert hfirst field.2) fun name hname ↦ hfields name (List.mem_cons_of_mem _ hname)

theorem erase (h : Footprint names facts facts') :
    Footprint names facts (facts'.erase loopItem) where
  same other hother := by
    have hne : other ≠ loopItem := fun heq ↦ hother (heq ▸ List.mem_cons_self)
    rw [SortedMap.get?_erase, if_neg hne, h.same other hother]
  kept other hother hsome := by
    rw [SortedMap.get?_erase, if_neg hother]
    exact h.kept other hother hsome

end Facts.Footprint

/-- Tasks write these names, and the facts differ from those at first in nothing else. -/
def Contract.footprint (names : List String) (facts : Facts) : Contract where
  holds _ := Facts.Footprint names facts
  allows _ told := told.names ⊆ names
  register _ _ value _ hallowed h :=
    h.insert (List.mem_cons_of_mem _ (hallowed List.mem_cons_self)) value
  merge _ _ _ hallowed h := h.merge fun _ hname ↦ hallowed hname
  bound _ item _ h := h.insert List.mem_cons_self item
  unbound _ _ h := h.erase

/-- A run that is followed to its end writes nothing but what its trace tells. -/
theorem Follows.footprint {context : Context} {world : World} {entry : Entry} {s : Session}
    {trace : List Step} {reply : Reply}
    (h : Follows context world [] (entry.course context s) trace reply) :
    s.facts.Footprint (written trace) reply.2.facts := by
  let contract := Contract.footprint (written trace) s.facts
  have hkept := h.ends contract (fun _ _ hmem ↦ subset_written hmem)
    (contract.entry_meets entry (.refl _ _))
  exact hkept.2

/-- The facts after a run differ from those before it in the names that its loops, its registered
outputs and its merged fields have, and no fact but the item of a loop is removed. -/
theorem Entry.execute_footprint (context : Context) (entry : Entry) {s s' : Session}
    {result : Except ExecutionError Unit} (h : (entry.execute context).run s = (result, s')) :
    ∃ trace, Follows context .quiet [] (entry.course context s) trace (result, s') ∧
      (∀ name, name ∉ Facts.loopItem :: written trace →
        s'.facts.get? name = s.facts.get? name) ∧
      ∀ name, name ≠ Facts.loopItem → (s.facts.get? name).isSome →
        (s'.facts.get? name).isSome := by
  obtain ⟨trace, hfollows⟩ := Entry.follows_of_run h
  exact ⟨trace, hfollows, hfollows.footprint.same, hfollows.footprint.kept⟩

/-- The run of a text, computed as it goes without limits. -/
def followText (context : Context) (levels : Nat) (text : String) (s : Session) :
    Option (List Step × Reply) :=
  ((Entry.text text).course context s).follow (Call.follow context levels)

theorem follows_of_followText {context : Context} {levels : Nat} {text : String} {s : Session}
    {trace : List Step} {reply : Reply}
    (h : followText context levels text s = some (trace, reply)) :
    Follows context .quiet [] ((Entry.text text).course context s) trace reply :=
  Course.follows_of_follow (fun _ _ _ _ hcalled ↦ Call.follows_of_follow hcalled) h []

/-- The trace of a run that ended with an error. -/
def stoppedTrace? : Option (List Step × Reply) → Option (List Step)
  | some (trace, .error _, _) => some trace
  | _ => none

theorem eq_some_of_stoppedTrace? {run : Option (List Step × Reply)} {trace : List Step}
    (h : stoppedTrace? run = some trace) : ∃ error s', run = some (trace, .error error, s') := by
  rcases run with _ | ⟨found, error | _, s'⟩
  · cases h
  · obtain rfl := Option.some.inj h
    exact ⟨error, s', rfl⟩
  · cases h

/-- A working directory with a playbook that writes a fact. -/
def writingFiles : FileSystem :=
  (FileSystem.initial ["work"]).place "inner.yaml"
    (.file (Text.Utf8.encode "- set_fact: {b: y}\n") FileSystem.newFileMode)

/-- Includes a file in a loop, registers an output and fails. -/
def stoppedText : String :=
  "- include: {files: [inner.yaml]}\n  loop: {items: [1]}\n" ++
    "- echo: {msg: m}\n  register: c\n- fail: {}\n- set_fact: {d: z}\n"

/-- A session in which one fact is known. -/
def writingSession : Session :=
  (Session.start .standard writingFiles).setFact "a" (.bool true)

theorem execute_footprint_stopped : ∃ registry error s' trace,
    Registry.ofKinds (TaskKind.standard ++ TaskKind.observers) = .ok registry ∧
      ((Entry.text stoppedText).execute ⟨.standard, registry, Template.resolver, ∅⟩).run
        writingSession = (.error error, s') ∧
      Follows ⟨.standard, registry, Template.resolver, ∅⟩ .quiet []
        ((Entry.text stoppedText).course ⟨.standard, registry, Template.resolver, ∅⟩
          writingSession) trace (.error error, s') ∧
      written trace = ["b", "c"] ∧ s'.facts.get? "a" = some (.bool true) ∧
      s'.facts.get? "d" = none := by
  have hfollow : ∃ registry,
      Registry.ofKinds (TaskKind.standard ++ TaskKind.observers) = .ok registry ∧
      ((stoppedTrace? (followText ⟨.standard, registry, Template.resolver, ∅⟩ 16 stoppedText
        writingSession)).any fun trace ↦ written trace == ["b", "c"]) = true := by
    refine ⟨_, rfl, ?_⟩
    decide +kernel
  obtain ⟨registry, hregistry, h⟩ := hfollow
  obtain ⟨trace, hstopped, h⟩ := (Option.any_eq_true _ _).mp h
  obtain ⟨error, s', hfound⟩ := eq_some_of_stoppedTrace? hstopped
  have hfollows := follows_of_followText hfound
  have hrun := Entry.run_eq_of_follows hfollows
  obtain ⟨trace', hfollows', hsame, -⟩ := Entry.execute_footprint _ _ hrun
  obtain ⟨rfl, -⟩ := hfollows.unique hfollows'
  have hwritten : written trace' = ["b", "c"] := eq_of_beq h
  rw [hwritten] at hsame
  refine ⟨registry, error, s', trace', hregistry, hrun, hfollows', hwritten, ?_, ?_⟩
  · exact (hsame "a" (by decide)).trans rfl
  · exact (hsame "d" (by decide)).trans rfl

end Playbook
