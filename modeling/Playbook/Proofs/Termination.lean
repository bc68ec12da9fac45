import Mathlib.Data.Prod.Lex
import Mathlib.Order.WellFounded
import Playbook.Proofs.Course.Following

/-!
# Every run ends

A call of the engine is lighter than the call that makes it: fewer files may still be opened, or the
element stands further back in its tree, or fewer items of a loop are left, or the call is nearer to
a task. All this needs is that children stand after their blocks, as they do in every parsed tree.
So there is a run without any limit, whatever files include each other and however the files change
meanwhile, and the limits of the engine never show: it does what that run does.
-/

namespace Playbook

open Engine

/-! ## Calls become lighter -/

/-- A call for an element that stands in a tree as the parser makes it. -/
def Call.Sound (registry : Registry) : Call → Prop
  | .file .. | .task .. => True
  | .element _ tree slot => tree.WellFormed registry ∧ slot < tree.size
  | .loop _ tree slot given _ | .pass _ tree slot given =>
    tree.WellFormed registry ∧ tree.get? slot = some given

/-- How many files may still be opened, how many elements stand further back, how far it is to a
task, and how many items of a loop are left. -/
def Call.weight (limit opened : Nat) : Call → Nat ×ₗ Nat ×ₗ Nat ×ₗ Nat
  | .file .. => toLex (limit - opened, toLex (0, toLex (0, 0)))
  | .task .. => toLex (limit - opened, toLex (0, toLex (1, 0)))
  | .pass _ tree slot _ => toLex (limit - opened, toLex (tree.size - slot, toLex (0, 0)))
  | .loop _ tree slot _ items =>
    toLex (limit - opened, toLex (tree.size - slot, toLex (1, items.length)))
  | .element _ tree slot => toLex (limit - opened, toLex (tree.size - slot, toLex (2, 0)))

variable {context : Context} {caller callee : Call} {opened now : Nat}

theorem Makes.sound (h : Makes context caller opened callee now)
    (hcaller : caller.Sound context.registry) : callee.Sound context.registry := by
  cases h with
  | root below parsed listed =>
    have hwell := Tree.wellFormed_of_ofText parsed
    exact ⟨hwell, hwell.roots_inside _ listed⟩
  | loop found | once found => exact ⟨hcaller.1, found⟩
  | iteration | rest => exact hcaller
  | child listed => exact ⟨hcaller.1, hcaller.1.block_inside _ _ hcaller.2 _ listed⟩
  | task | file => exact trivial

theorem Makes.weight_lt (h : Makes context caller opened callee now)
    (hcaller : caller.Sound context.registry) :
    callee.weight context.settings.includeLimit now <
      caller.weight context.settings.includeLimit opened := by
  cases h with
  | root below parsed listed =>
    rw [Call.weight, Call.weight, Prod.Lex.toLex_lt_toLex]
    exact .inl (Nat.sub_lt_sub_left below (Nat.lt_succ_self _))
  | @child _ tree slot element child _ listed =>
    have hlater : slot < child := hcaller.1.lt_child _ _ hcaller.2 _ listed
    have hinside : child < tree.size := hcaller.1.block_inside _ _ hcaller.2 _ listed
    simp only [Call.weight, Prod.Lex.toLex_lt_toLex]
    exact .inr ⟨trivial, .inl (Nat.sub_lt_sub_left (hlater.trans hinside) hlater)⟩
  | @task _ tree slot =>
    have hinside : slot < tree.size := Tree.get?_lt hcaller.2
    simp only [Call.weight, Prod.Lex.toLex_lt_toLex]
    exact .inr ⟨trivial, .inl (Nat.sub_pos_of_lt hinside)⟩
  | loop | once | iteration | rest | file => simp [Call.weight, Prod.Lex.toLex_lt_toLex]

/-- The course makes sound calls that are lighter than the caller, as long as calls leave the depth
as it was, and then it does so itself. -/
def Course.Descends (context : Context) (caller : Call) (opened : Nat) : Course Reply → Prop :=
  Meets
    { writes := fun _ _ ↦ True
      calls := fun callee s ↦ callee.Sound context.registry ∧
        callee.weight context.settings.includeLimit s.depth <
          caller.weight context.settings.includeLimit opened
      returns := fun _ s s' ↦ s'.depth = s.depth }
    fun reply ↦ reply.2.depth = opened

theorem Call.descends (hsound : caller.Sound context.registry) (s : Session) :
    (caller.course context s).Descends context caller s.depth := by
  apply (Contract.any.call_meets caller trivial).mono
  · exact fun _ _ _ ↦ trivial
  · exact fun callee s' hcall ↦ ⟨hcall.1.sound hsound, hcall.1.weight_lt hsound⟩
  · exact fun callee s' s'' hdepth ↦ ⟨hdepth, trivial⟩
  · exact fun reply hkept ↦ hkept.1

/-! ## There is a run -/

variable {world : World} {history trace : List Step} {course : Course Reply} {reply : Reply}
  {makes : Call → Nat → Prop} {ends : Reply → Prop}

/-- Calls leave the depth as it was. -/
theorem Follows.depth_eq {s : Session}
    (h : Follows context world history (callee.course context s) trace reply) :
    reply.2.depth = s.depth :=
  (h.ends .any (fun _ _ _ ↦ trivial) (Contract.any.call_meets callee trivial)).1

/-- A course can be followed to its end if its calls can. -/
theorem Course.exists_follows (hmeets : course.Meets (Contract.any.terms makes) ends)
    (hcalls : ∀ callee s history, makes callee s.depth →
      ∃ trace reply, Follows context world history (callee.course context s) trace reply)
    (history : List Step) : ∃ trace reply, Follows context world history course trace reply := by
  induction course generalizing history with
  | done reply => exact ⟨[], reply, .done⟩
  | write looped told next ih =>
    obtain ⟨trace, reply, hlater⟩ := ih (hmeets trivial) _
    exact ⟨_, reply, .write hlater⟩
  | call callee s next ih =>
    obtain ⟨inside, answer, hcalled⟩ :=
      hcalls callee { s with files := world history s.files } (history ++ [.call callee]) hmeets.1.1
    have hreturn : Contract.any.terms makes |>.returns callee s answer.2 :=
      ⟨hcalled.depth_eq, trivial⟩
    obtain ⟨trace, reply, hlater⟩ := ih answer (hmeets.2 answer hreturn) _
    exact ⟨_, reply, .call hcalled hlater⟩

/-- A sound call can be followed to its end, for the calls that it makes are sound and lighter. -/
theorem Call.exists_follows (world : World) (callee : Call) (s : Session) (history : List Step)
    (hsound : callee.Sound context.registry) :
    ∃ trace reply, Follows context world history (callee.course context s) trace reply := by
  induction hweight : callee.weight context.settings.includeLimit s.depth
    using WellFoundedLT.induction generalizing callee s history with
  | ind weight ih =>
    refine Course.exists_follows (Contract.any.call_meets callee trivial) ?_ history
    intro inner s' history' hmakes
    exact ih _ (hweight ▸ hmakes.weight_lt hsound) inner s' history' (hmakes.sound hsound) rfl

/-! ## The limits of the engine -/

/-- The engine follows files and blocks far enough for a call. -/
def Reach.Suffices (context : Context) (reach : Reach) (opened : Nat) : Call → Prop
  | .file .. | .task .. => context.settings.includeLimit < opened + reach.files
  | .element _ tree slot => context.settings.includeLimit < opened + reach.files ∧
    tree.size ≤ slot + reach.blocks tree
  | .loop _ tree slot _ _ | .pass _ tree slot _ =>
    context.settings.includeLimit < opened + reach.files ∧
      tree.size ≤ slot + 1 + reach.blocks tree

variable {reach : Reach}

/-- What suffices for a call suffices for the calls that it makes. -/
theorem Makes.suffices (h : Makes context caller opened callee now)
    (hcaller : caller.Sound context.registry) (hreach : reach.Suffices context opened caller) :
    (reach.within caller).Suffices context now callee := by
  cases h with
  | root below =>
    have hfiles : context.settings.includeLimit < opened + reach.files := hreach
    simp only [Reach.Suffices, Reach.within, blockDepth]
    omega
  | loop | once =>
    obtain ⟨hfiles, hblocks⟩ := hreach
    refine ⟨hfiles, ?_⟩
    simp only [Reach.within]
    omega
  | child listed =>
    obtain ⟨hfiles, hblocks⟩ := hreach
    have hlater := hcaller.1.lt_child _ _ hcaller.2 _ listed
    exact ⟨hfiles, hblocks.trans (Nat.add_le_add_right hlater _)⟩
  | iteration | rest | file => exact hreach
  | task => exact hreach.1

/-- With such a reach the engine runs a call as its course says. -/
theorem Call.exec_course {s : Session} (hsound : callee.Sound context.registry)
    (hreach : reach.Suffices context s.depth callee) :
    ((callee.course context).exec (Call.run context (reach.within callee))).run s =
      (callee.run context reach).run s := by
  cases callee with
  | file site path => exact exec_fileCourse site path hreach
  | element site tree slot =>
    have hblocks : 0 < reach.blocks tree :=
      Nat.lt_of_add_lt_add_left (hsound.2.trans_le hreach.2)
    exact congrArg (fun x : Run ↦ x.run s) (exec_elementCourse site hblocks slot)
  | loop site tree slot given items =>
    exact congrArg (fun x : Run ↦ x.run s) (exec_loopCourse site tree slot given items)
  | pass site tree slot given =>
    exact congrArg (fun x : Run ↦ x.run s) (exec_passCourse site tree slot given)
  | task site given environment =>
    exact congrArg (fun x : Run ↦ x.run s) (exec_taskCourse site given environment)

/-- A course that is followed to its end ends as when the engine answers its calls. -/
theorem Follows.exec_eq (h : Follows context .quiet history course trace reply)
    (hmeets : course.Meets (Contract.any.terms makes) ends)
    (hmakes : ∀ callee opened, makes callee opened →
      callee.Sound context.registry ∧ reach.Suffices context opened callee) :
    course.exec (fun callee s ↦ (callee.run context reach).run s) = reply := by
  induction h generalizing makes ends reach with
  | done => rfl
  | write later ih => exact ih (hmeets trivial) hmakes
  | @call _ callee s _ _ answer _ _ called later ihCalled ihLater =>
    obtain ⟨hsound, hreach⟩ := hmakes callee s.depth hmeets.1.1
    have hanswer : (callee.run context reach).run s = answer :=
      calc (callee.run context reach).run s
          = ((callee.course context).exec (Call.run context (reach.within callee))).run s :=
            (Call.exec_course hsound hreach).symm
        _ = answer := by
            apply ihCalled (Contract.any.call_meets callee trivial)
            intro inner opened hinner
            exact ⟨hinner.sound hsound, hinner.suffices hsound hreach⟩
    have hreturn : (Contract.any.terms makes).returns callee s answer.2 :=
      ⟨called.depth_eq, trivial⟩
    rw [Course.exec, hanswer]
    exact ihLater (hmeets.2 answer hreturn) hmakes

/-! ## Whole runs -/

theorem Entry.Makes.sound {entry : Entry} (h : entry.Makes context opened callee now) :
    callee.Sound context.registry := by
  cases entry with
  | text content =>
    obtain ⟨-, tree, root, hparse, hroot, rfl⟩ := h
    have hwell := Tree.wellFormed_of_ofText hparse
    exact ⟨hwell, hwell.roots_inside root hroot⟩
  | file path | playbook path =>
    obtain ⟨-, rfl⟩ := h
    exact trivial

theorem Entry.Makes.suffices {entry : Entry} (h : entry.Makes context opened callee now) :
    (Reach.start context).Suffices context now callee := by
  cases entry with
  | text content =>
    obtain ⟨rfl, tree, root, -, -, rfl⟩ := h
    simp only [Reach.Suffices, Reach.start, blockDepth]
    omega
  | file path | playbook path =>
    obtain ⟨rfl, rfl⟩ := h
    simp only [Reach.Suffices, Reach.start]
    omega

theorem Entry.exists_follows (context : Context) (world : World) (entry : Entry) (s : Session) :
    ∃ trace reply, Follows context world [] (entry.course context s) trace reply :=
  Course.exists_follows (Contract.any.entry_meets entry trivial)
    (fun callee s' history hmakes ↦ callee.exists_follows world s' history hmakes.sound) []

/-- The run of the engine is the run without limits. -/
theorem Entry.run_eq_of_follows {entry : Entry} {s : Session}
    (h : Follows context .quiet [] (entry.course context s) trace reply) :
    (entry.execute context).run s = reply := by
  rw [← Entry.exec_course]
  apply h.exec_eq (Contract.any.entry_meets entry trivial)
  intro callee opened hmakes
  exact ⟨hmakes.sound, hmakes.suffices⟩

theorem Entry.follows_of_run {entry : Entry} {s : Session}
    (h : (entry.execute context).run s = reply) :
    ∃ trace, Follows context .quiet [] (entry.course context s) trace reply := by
  obtain ⟨trace, found, hfollows⟩ := entry.exists_follows context .quiet s
  obtain rfl := (Entry.run_eq_of_follows hfollows).symm.trans h
  exact ⟨trace, hfollows⟩

/-- Calls become lighter and lighter, so every run ends, in one way, however the files change from
outside between its calls; and the engine with its limits does just that when they do not. -/
theorem Entry.execute_terminates (context : Context) (entry : Entry) (s : Session) :
    (∀ (caller : Call) (s : Session), caller.Sound context.registry →
      (caller.course context s).Descends context caller s.depth) ∧
    (∀ world, ∃ trace reply, Follows context world [] (entry.course context s) trace reply ∧
      ∀ trace' reply', Follows context world [] (entry.course context s) trace' reply' →
        trace' = trace ∧ reply' = reply) ∧
    ∀ reply, (entry.execute context).run s = reply ↔
      ∃ trace, Follows context .quiet [] (entry.course context s) trace reply := by
  refine ⟨fun caller s' hsound ↦ Call.descends hsound s', fun world ↦ ?_, fun reply ↦ ?_⟩
  · obtain ⟨trace, reply, hfollows⟩ := entry.exists_follows context world s
    exact ⟨trace, reply, hfollows, fun _ _ hother ↦ hfollows.unique hother⟩
  · exact ⟨Entry.follows_of_run, fun ⟨_, hfollows⟩ ↦ Entry.run_eq_of_follows hfollows⟩

/-- Somebody writes a playbook that includes itself whenever a call is made. -/
def loopingWorld : World := fun _ files ↦
  files.place "self.yaml" (.file (Text.Utf8.encode loopingText) FileSystem.newFileMode)

theorem execute_terminates_looping : ∃ registry tree slot,
    Registry.ofKinds TaskKind.standard = .ok registry ∧
      Document.ofText registry loopingText = .ok tree ∧
      (Call.element .top tree slot).Sound registry ∧
      ((Call.element .top tree slot).course (loopingContext registry)
        (.start .standard loopingFiles)).Descends (loopingContext registry)
        (.element .top tree slot) 0 ∧
      ∃ trace reply, Follows (loopingContext registry) loopingWorld []
        ((Entry.playbook "self.yaml").course (loopingContext registry)
          (.start .standard (.initial ["work"]))) trace reply := by
  obtain ⟨registry, hregistry, including, -⟩ := looping_including
  have hsound : (Call.element .top including.tree including.slot).Sound registry :=
    ⟨Tree.wellFormed_of_ofText including.parsed, Tree.get?_lt including.found⟩
  obtain ⟨hdescends, hends, -⟩ := Entry.execute_terminates (loopingContext registry)
    (.playbook "self.yaml") (.start .standard (.initial ["work"]))
  obtain ⟨trace, reply, hfollows, -⟩ := hends loopingWorld
  exact ⟨registry, including.tree, including.slot, hregistry, including.parsed, hsound,
    hdescends _ (.start .standard loopingFiles) hsound, trace, reply, hfollows⟩

end Playbook
