import Playbook.Proofs.Asking

/-!
# Computations that agree

Two computations on a session agree from a precondition when they end alike wherever it holds, and
what they end with meets a postcondition, one for values and one for errors. A computation that
agrees with itself just meets its postconditions. The rules follow the ways in which the engine
puts computations together.
-/

namespace Playbook

namespace Acting

variable {ε ε' α β : Type}

/-- From every session with `pre` two computations end alike: with a value and a session as `ok`
says, or with an error and a session as `bad` says. -/
def Agree (pre : Session → Prop) (x y : Acting ε α) (ok : α → Session → Prop)
    (bad : ε → Session → Prop) : Prop :=
  ∀ s, pre s →
    (∃ value s', x.run s = (.ok value, s') ∧ y.run s = (.ok value, s') ∧ ok value s') ∨
    ∃ error s', x.run s = (.error error, s') ∧ y.run s = (.error error, s') ∧ bad error s'

/-- From every session with `pre` a computation ends as `ok` or as `bad` says. -/
abbrev Ensures (pre : Session → Prop) (x : Acting ε α) (ok : α → Session → Prop)
    (bad : ε → Session → Prop) : Prop :=
  Agree pre x x ok bad

/-- Two computations end alike, keep an invariant in any case and fail only as `P` says. -/
abbrev AgreeKeeping (I : Session → Prop) (P : ε → Prop) (x y : Acting ε α) : Prop :=
  Agree I x y (fun _ ↦ I) fun error s ↦ P error ∧ I s

/-- A computation keeps an invariant in any case and fails only as `P` says. -/
abbrev Keeps (I : Session → Prop) (P : ε → Prop) (x : Acting ε α) : Prop :=
  AgreeKeeping I P x x

namespace Agree

variable {pre pre' : Session → Prop} {x y : Acting ε α} {f g : α → Acting ε β}
  {ok ok' : α → Session → Prop} {mid : α → Session → Prop} {okNext : β → Session → Prop}
  {bad bad' : ε → Session → Prop}

theorem run_eq (h : Agree pre x y ok bad) {s : Session} (hs : pre s) : x.run s = y.run s := by
  rcases h s hs with ⟨value, s', hx, hy, -⟩ | ⟨error, s', hx, hy, -⟩
  · rw [hx, hy]
  · rw [hx, hy]

theorem of_run_ok (h : Agree pre x y ok bad) {s s' : Session} {value : α} (hs : pre s)
    (hrun : y.run s = (.ok value, s')) : ok value s' := by
  rcases h s hs with ⟨found, after, -, hy, hok⟩ | ⟨error, after, -, hy, -⟩
  · obtain ⟨hvalue, rfl⟩ := Prod.mk.inj (hy.symm.trans hrun)
    obtain rfl := Except.ok.inj hvalue
    exact hok
  · cases (Prod.mk.inj (hy.symm.trans hrun)).1

theorem of_run_error (h : Agree pre x y ok bad) {s s' : Session} {error : ε} (hs : pre s)
    (hrun : y.run s = (.error error, s')) : bad error s' := by
  rcases h s hs with ⟨value, after, -, hy, -⟩ | ⟨found, after, -, hy, hbad⟩
  · cases (Prod.mk.inj (hy.symm.trans hrun)).1
  · obtain ⟨herror, rfl⟩ := Prod.mk.inj (hy.symm.trans hrun)
    obtain rfl := Except.error.inj herror
    exact hbad

theorem of_run {after : Session → Prop} {result : Except ε α}
    (h : Agree pre x y (fun _ ↦ after) fun _ ↦ after) {s s' : Session} (hs : pre s)
    (hrun : y.run s = (result, s')) : after s' := by
  cases result with
  | ok value => exact h.of_run_ok hs hrun
  | error error => exact h.of_run_error hs hrun

protected theorem mono (h : Agree pre' x y ok' bad') (hpre : ∀ s, pre s → pre' s)
    (hok : ∀ value s, ok' value s → ok value s) (hbad : ∀ error s, bad' error s → bad error s) :
    Agree pre x y ok bad := by
  intro s hs
  rcases h s (hpre s hs) with ⟨value, s', hx, hy, h'⟩ | ⟨error, s', hx, hy, h'⟩
  · exact .inl ⟨value, s', hx, hy, hok value s' h'⟩
  · exact .inr ⟨error, s', hx, hy, hbad error s' h'⟩

theorem of_imp (h : Agree pre' x y ok bad) (hpre : ∀ s, pre s → pre' s) : Agree pre x y ok bad :=
  h.mono hpre (fun _ _ hs ↦ hs) fun _ _ hs ↦ hs

theorem imp (h : Agree pre x y ok' bad') (hok : ∀ value s, ok' value s → ok value s)
    (hbad : ∀ error s, bad' error s → bad error s) : Agree pre x y ok bad :=
  h.mono (fun _ hs ↦ hs) hok hbad

theorem imp_ok (h : Agree pre x y ok' bad) (hok : ∀ value s, ok' value s → ok value s) :
    Agree pre x y ok bad :=
  h.imp hok fun _ _ hs ↦ hs

theorem imp_bad (h : Agree pre x y ok bad') (hbad : ∀ error s, bad' error s → bad error s) :
    Agree pre x y ok bad :=
  h.imp (fun _ _ hs ↦ hs) hbad

/-- A fact that the precondition holds may be used for all sessions at once. -/
theorem of_fact {fact : Prop} (h : fact → Agree pre x y ok bad) :
    Agree (fun s ↦ fact ∧ pre s) x y ok bad :=
  fun s hs ↦ h hs.1 s hs.2

theorem of_exists {ι : Type} {given : ι → Session → Prop}
    (h : ∀ index, Agree (given index) x y ok bad) :
    Agree (fun s ↦ ∃ index, given index s) x y ok bad :=
  fun s hs ↦ hs.elim fun index hgiven ↦ h index s hgiven

protected theorem pure {value : α} (h : ∀ s, pre s → ok value s) :
    Ensures (ε := ε) pre (Pure.pure value) ok bad :=
  fun s hs ↦ .inl ⟨value, s, rfl, rfl, h s hs⟩

protected theorem throw {error : ε} (h : ∀ s, pre s → bad error s) :
    Ensures (α := α) pre (throw error) ok bad :=
  fun s hs ↦ .inr ⟨error, s, rfl, rfl, h s hs⟩

protected theorem bind (h : Agree pre x y mid bad)
    (hnext : ∀ value, Agree (mid value) (f value) (g value) okNext bad) :
    Agree pre (x >>= f) (y >>= g) okNext bad := by
  intro s hs
  rcases h s hs with ⟨value, s', hx, hy, hmid⟩ | ⟨error, s', hx, hy, hbad⟩
  · rw [run_bind_of_ok hx, run_bind_of_ok hy]
    exact hnext value s' hmid
  · exact .inr ⟨error, s', run_bind_of_error hx, run_bind_of_error hy, hbad⟩

protected theorem modify {change : Session → Session} {ok : PUnit → Session → Prop}
    (h : ∀ s, pre s → ok ⟨⟩ (change s)) : Ensures (ε := ε) pre (modify change) ok bad :=
  fun s hs ↦ .inl ⟨⟨⟩, change s, rfl, rfl, h s hs⟩

/-- What comes after a look at the session may use that it did not change. -/
theorem get_bind {f g : Session → Acting ε β}
    (h : ∀ found, pre found → Agree (· = found) (f found) (g found) okNext bad) :
    Agree pre (get >>= f) (get >>= g) okNext bad := by
  intro s hs
  have hget : (get : Acting ε Session).run s = (.ok s, s) := rfl
  rw [run_bind_of_ok hget, run_bind_of_ok hget]
  exact h s hs s rfl

/-- What comes after a look at the session may use what held of it, and that still holds. -/
theorem get_bind_of_pre {f g : Session → Acting ε β}
    (h : ∀ found, pre found → Agree pre (f found) (g found) okNext bad) :
    Agree pre (get >>= f) (get >>= g) okNext bad :=
  get_bind fun found hfound ↦ (h found hfound).of_imp fun _ hs ↦ hs ▸ hfound

protected theorem set {s' : Session} {ok : PUnit → Session → Prop} (h : ∀ s, pre s → ok ⟨⟩ s') :
    Ensures (ε := ε) pre (set s') ok bad :=
  fun s hs ↦ .inl ⟨⟨⟩, s', rfl, rfl, h s hs⟩

protected theorem log {spans : List String} {level : Level} {message : String}
    {ok : Unit → Session → Prop}
    (h : ∀ s, pre s → ok () (s.logged ⟨level, message, spans⟩)) :
    Ensures (ε := ε) pre (Acting.log spans level message) ok bad :=
  Agree.modify h

/-- Of an attempt the result of either kind is a value. -/
protected theorem attempt {okAll : Except ε α → Session → Prop} {never : ε' → Session → Prop}
    (h : Agree pre x y (fun value ↦ okAll (.ok value)) (fun error ↦ okAll (.error error))) :
    Agree pre (attempt x) (attempt y) okAll never := by
  intro s hs
  rcases h s hs with ⟨value, s', hx, hy, h'⟩ | ⟨error, s', hx, hy, h'⟩
  · exact .inl ⟨.ok value, s', by rw [attempt_run, hx], by rw [attempt_run, hy], h'⟩
  · exact .inl ⟨.error error, s', by rw [attempt_run, hx], by rw [attempt_run, hy], h'⟩

protected theorem because {wrap : ε → ε'} {bad' : ε' → Session → Prop}
    (h : Agree pre x y ok (fun error ↦ bad' (wrap error))) :
    Agree pre (because wrap x) (because wrap y) ok bad' := by
  intro s hs
  rcases h s hs with ⟨value, s', hx, hy, h'⟩ | ⟨error, s', hx, hy, h'⟩
  · have hrun {z : Acting ε α} (hz : z.run s = (.ok value, s')) :
        (Acting.because wrap z).run s = (.ok value, s') := by
      rw [because_run, hz]
      rfl
    exact .inl ⟨value, s', hrun hx, hrun hy, h'⟩
  · have hrun {z : Acting ε α} (hz : z.run s = (.error error, s')) :
        (Acting.because wrap z).run s = (.error (wrap error), s') := by
      rw [because_run, hz]
      rfl
    exact .inr ⟨wrap error, s', hrun hx, hrun hy, h'⟩

/-- The result of an attempt tells how the computation failed. -/
theorem attempt_keeping {I : Session → Prop} {P : ε → Prop} {never : ε' → Session → Prop}
    (h : AgreeKeeping I P x y) :
    Agree I (Acting.attempt x) (Acting.attempt y)
      (fun result s ↦ (∀ error, result = .error error → P error) ∧ I s) never := by
  refine Agree.attempt (h.imp (fun _ _ hs ↦ ⟨nofun, hs⟩) fun error s hs ↦ ?_)
  refine ⟨fun found hfound ↦ ?_, hs.2⟩
  obtain rfl := Except.error.inj hfound
  exact hs.1

/-- A computation that gives a result or fails with it. -/
def Rethrows (next : Except ε α → Acting ε α) : Prop :=
  (∀ value, next (.ok value) = return value) ∧ ∀ error, next (.error error) = throw error

/-- What was attempted goes on as if it had not been, after a last step that cannot fail. -/
theorem rethrow {close : Session → Session} {next other : Except ε α → Acting ε α}
    (hnext : Rethrows next) (hother : Rethrows other)
    (h : Agree pre x y (fun value s ↦ ok value (close s)) (fun error s ↦ bad error (close s))) :
    Agree pre (Acting.attempt x >>= fun result ↦ modify close >>= fun _ ↦ next result)
      (Acting.attempt y >>= fun result ↦ modify close >>= fun _ ↦ other result) ok bad := by
  let closed (result : Except ε α) (s : Session) : Prop :=
    match result with
    | .ok value => ok value s
    | .error error => bad error s
  have hattempt : Agree (ε := ε) pre (Acting.attempt x) (Acting.attempt y)
      (fun result s ↦ closed result (close s)) bad := Agree.attempt h
  have hclose (result : Except ε α) : Ensures (ε := ε) (fun s ↦ closed result (close s))
      (modify close) (fun _ ↦ closed result) bad := Agree.modify fun s hs ↦ hs
  refine hattempt.bind fun result ↦ (hclose result).bind fun _ ↦ ?_
  cases result with
  | ok value =>
    rw [hnext.1, hother.1]
    exact Agree.pure fun s hs ↦ hs
  | error error =>
    rw [hnext.2, hother.2]
    exact Agree.throw fun s hs ↦ hs

end Agree

end Acting

end Playbook
