import Mathlib.Data.List.Basic

/-!
# Going through lists

What goes through a list and may fail at each of its items stops at the first one that it fails at.
Its error is the error of this item, and it got past all items before.
-/

namespace Playbook

theorem map_eq_error {ε α β : Type} {x : Except ε α} {f : α → β} {e : ε} :
    x.map f = .error e ↔ x = .error e := by
  cases x <;> simp [Except.map]

/-- A run from state to state fails at the first item whose step fails. -/
theorem exists_first_error {ε α σ : Type} (run : List α → σ → Except ε σ)
    (step : α → σ → Except ε σ) (nil : ∀ state, run [] state = .ok state)
    (cons : ∀ item rest state,
      run (item :: rest) state = (step item state).bind (run rest))
    (items : List α) (state : σ) (e : ε) : run items state = .error e ↔
      ∃ before item after met, items = before ++ item :: after ∧
        run before state = .ok met ∧ step item met = .error e := by
  induction items generalizing state with
  | nil => simp [nil]
  | cons first rest ih =>
    constructor
    · intro h
      rw [cons] at h
      cases hfirst : step first state with
      | error fault =>
        rw [hfirst] at h
        exact ⟨[], first, rest, state, rfl, nil state, hfirst.trans h⟩
      | ok next =>
        rw [hfirst] at h
        obtain ⟨before, item, after, met, rfl, hbefore, hitem⟩ := (ih next).mp h
        refine ⟨first :: before, item, after, met, rfl, ?_, hitem⟩
        rw [cons, hfirst]
        exact hbefore
    · rintro ⟨before, item, after, met, hsplit, hbefore, hitem⟩
      cases before with
      | nil =>
        obtain ⟨rfl, rfl⟩ := List.cons.inj hsplit
        obtain rfl := Except.ok.inj ((nil state).symm.trans hbefore)
        rw [cons, hitem]
        rfl
      | cons other others =>
        obtain ⟨rfl, rfl⟩ := List.cons.inj hsplit
        rw [cons] at hbefore ⊢
        cases hfirst : step first state with
        | error fault => simp [hfirst, Except.bind] at hbefore
        | ok next =>
          rw [hfirst] at hbefore
          exact (ih next).mpr ⟨others, item, after, met, rfl, hbefore, hitem⟩

/-- Where a run fails may be said of the items alone, if it can be said how far it gets and which
step fails there. -/
theorem error_iff_first {ε α σ : Type} (run : List α → σ → Except ε σ)
    (step : α → σ → Except ε σ) (nil : ∀ state, run [] state = .ok state)
    (cons : ∀ item rest state,
      run (item :: rest) state = (step item state).bind (run rest))
    (items : List α) (state : σ) (e : ε) {sound : List α → Prop} {fails : List α → α → Prop}
    (hsound : ∀ before, (∃ met, run before state = .ok met) ↔ sound before)
    (hfails : ∀ before item met, item ∈ items → run before state = .ok met →
      (step item met = .error e ↔ fails before item)) : run items state = .error e ↔
      ∃ before item after, items = before ++ item :: after ∧ sound before ∧ fails before item := by
  rw [exists_first_error run step nil cons]
  constructor
  · rintro ⟨before, item, after, met, rfl, hbefore, hitem⟩
    have hmem : item ∈ before ++ item :: after := List.mem_append_right before List.mem_cons_self
    exact ⟨before, item, after, rfl, (hsound before).mp ⟨met, hbefore⟩,
      (hfails before item met hmem hbefore).mp hitem⟩
  · rintro ⟨before, item, after, rfl, hbefore, hitem⟩
    have hmem : item ∈ before ++ item :: after := List.mem_append_right before List.mem_cons_self
    obtain ⟨met, hmet⟩ := (hsound before).mpr hbefore
    exact ⟨before, item, after, met, rfl, hmet, (hfails before item met hmem hmet).mpr hitem⟩

/-- A run that counts its items fails at the first that is not sound. -/
theorem exists_first_error_at {ε α β γ : Type} (sound : α → Prop)
    (run : Nat → List α → Except ε γ) (step : Nat → α → Except ε β)
    (nil : ∀ position e, run position [] ≠ .error e)
    (cons : ∀ position item rest e, run position (item :: rest) = .error e ↔
      step position item = .error e ∨
        (∃ value, step position item = .ok value) ∧ run (position + 1) rest = .error e)
    (one : ∀ position item, (∃ value, step position item = .ok value) ↔ sound item)
    (items : List α) (position : Nat) (e : ε) : run position items = .error e ↔
      ∃ before item after, items = before ++ item :: after ∧ (∀ found ∈ before, sound found) ∧
        step (position + before.length) item = .error e := by
  induction items generalizing position with
  | nil => simp [nil]
  | cons first rest ih =>
    rw [cons, one, ih]
    constructor
    · rintro (hfirst | ⟨hsound, before, item, after, rfl, hbefore, hitem⟩)
      · exact ⟨[], first, rest, rfl, nofun, hfirst⟩
      · refine ⟨first :: before, item, after, rfl, List.forall_mem_cons.mpr ⟨hsound, hbefore⟩, ?_⟩
        rwa [List.length_cons, Nat.add_comm before.length, ← Nat.add_assoc]
    · rintro ⟨before, item, after, hsplit, hbefore, hitem⟩
      cases before with
      | nil =>
        obtain ⟨rfl, rfl⟩ := List.cons.inj hsplit
        exact .inl hitem
      | cons other others =>
        obtain ⟨rfl, rfl⟩ := List.cons.inj hsplit
        obtain ⟨hsound, hothers⟩ := List.forall_mem_cons.mp hbefore
        refine .inr ⟨hsound, others, item, after, rfl, hothers, ?_⟩
        rwa [List.length_cons, Nat.add_comm others.length, ← Nat.add_assoc] at hitem

end Playbook
