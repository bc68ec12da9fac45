import Mathlib.Algebra.Order.Group.Multiset
import Mathlib.Data.List.Flatten
import Mathlib.Data.List.Perm.Subperm
import Playbook.Composite
import Playbook.Proofs.Recital

/-!
# Shared parts

A resolution goes into a shared part where it meets it first, and past it everywhere else. This
holds over all values that are resolved together, inside other parts, and also when a value or the
part itself fails: what counts is that the part was met. So each string of a value or a definition
is asked for once at most, although the values may be exponentially larger than the definitions when
they are written out.
-/

namespace Playbook

open Resolving (Told Yields Recites)

/-- What a resolution comes by: a string that it asks for, a shared part that it goes into, or a
shared part that it goes past. -/
inductive Visit where
  | asks (text : String)
  | enters (part : Nat)
  | passes (part : Nat)

namespace Visit

def text? : Visit → Option String
  | .asks text => some text
  | _ => none

def entered? : Visit → Option Nat
  | .enters part => some part
  | _ => none

/-- The shared part that is met, if any. -/
def part? : Visit → Option Nat
  | .asks _ => none
  | .enters part | .passes part => some part

def asked (visits : List Visit) : List String :=
  visits.filterMap text?

def entered (visits : List Visit) : List Nat :=
  visits.filterMap entered?

def met (visits : List Visit) : List Nat :=
  visits.filterMap part?

/-- A part is entered exactly where it is met first. -/
def FirstOnly (visits : List Visit) : Prop :=
  ∀ before visit after part, visits = before ++ visit :: after → visit.part? = some part →
    (visit = .enters part ↔ part ∉ met before)

@[simp] theorem asked_append (visits later : List Visit) :
    asked (visits ++ later) = asked visits ++ asked later :=
  List.filterMap_append

@[simp] theorem entered_append (visits later : List Visit) :
    entered (visits ++ later) = entered visits ++ entered later :=
  List.filterMap_append

@[simp] theorem asked_asks (texts : List String) : asked (texts.map .asks) = texts := by
  induction texts with
  | nil => rfl
  | cons text rest ih => exact congrArg (text :: ·) ih

@[simp] theorem entered_asks (texts : List String) : entered (texts.map .asks) = [] := by
  induction texts with
  | nil => rfl
  | cons text rest ih => exact ih

/-! ## Visits with some parts met -/

/-- When the given parts have been met, new ones are entered and others are passed. -/
def Fits : (met : List Nat) → List Visit → Prop
  | _, [] => True
  | met, .asks _ :: rest => Fits met rest
  | met, .enters part :: rest => part ∉ met ∧ Fits (part :: met) rest
  | met, .passes part :: rest => part ∈ met ∧ Fits met rest

variable {known : List Nat} {visits later : List Visit}

theorem fits_asks (known : List Nat) (texts : List String) : Fits known (texts.map .asks) := by
  induction texts with
  | nil => exact trivial
  | cons text rest ih => exact ih

theorem fits_append :
    Fits known (visits ++ later) ↔
      Fits known visits ∧ Fits ((entered visits).reverse ++ known) later := by
  induction visits generalizing known with
  | nil => exact ⟨fun h ↦ ⟨trivial, h⟩, fun h ↦ h.2⟩
  | cons visit rest ih =>
    cases visit with
    | asks text => exact ih
    | enters part =>
      have hentered : (entered (.enters part :: rest)).reverse ++ known =
          (entered rest).reverse ++ part :: known := by
        simp [entered, entered?]
      rw [hentered, List.cons_append, Fits, Fits, ih, and_assoc]
    | passes part =>
      rw [List.cons_append, Fits, Fits, ih, and_assoc]
      rfl

/-- Parts that are passed were entered, or met before. -/
theorem Fits.mem_met_iff (h : Fits known visits) (part : Nat) :
    part ∈ met visits ++ known ↔ part ∈ (entered visits).reverse ++ known := by
  induction visits generalizing known with
  | nil => rfl
  | cons visit rest ih =>
    cases visit with
    | asks text => exact ih h
    | enters found =>
      have hrest := ih h.2
      simp only [List.mem_append, List.mem_cons, List.mem_reverse] at hrest
      simp only [met, entered, part?, entered?, List.filterMap_cons, List.mem_append,
        List.mem_cons, List.mem_reverse]
      simp only [met, entered] at hrest
      tauto
    | passes found =>
      have hrest := ih h.2
      have hfound : part = found → part ∈ known := fun heq ↦ heq ▸ h.1
      simp only [List.mem_append, List.mem_reverse] at hrest
      simp only [met, entered, part?, entered?, List.filterMap_cons, List.mem_append,
        List.mem_cons, List.mem_reverse]
      simp only [met, entered] at hrest
      tauto

theorem Fits.nodup (h : Fits known visits) :
    (entered visits).Nodup ∧ ∀ part ∈ entered visits, part ∉ known := by
  induction visits generalizing known with
  | nil => exact ⟨List.nodup_nil, nofun⟩
  | cons visit rest ih =>
    cases visit with
    | asks text => exact ih h
    | enters part =>
      obtain ⟨hnodup, hnew⟩ := ih h.2
      refine ⟨List.nodup_cons.mpr ⟨fun hmem ↦ hnew part hmem List.mem_cons_self, hnodup⟩, ?_⟩
      intro found hfound hknown
      rcases List.mem_cons.mp hfound with rfl | hlater
      · exact h.1 hknown
      · exact hnew found hlater (List.mem_cons_of_mem _ hknown)
    | passes part => exact ih h.2

theorem Fits.firstOnly (h : Fits [] visits) : FirstOnly visits := by
  rintro before visit after part rfl hpart
  obtain ⟨hbefore, hvisit⟩ := fits_append.mp h
  have hmet := hbefore.mem_met_iff part
  rw [List.append_nil] at hmet
  rw [hmet]
  cases visit with
  | asks text => cases hpart
  | enters found =>
    obtain rfl := Option.some.inj hpart
    exact iff_of_true rfl hvisit.1
  | passes found =>
    obtain rfl := Option.some.inj hpart
    exact iff_of_false nofun (not_not_intro hvisit.1)

end Visit

open Visit

namespace Composite

/-! ## Values and definitions -/

mutual

/-- The strings that are written in a value itself; those of a shared part are written in its
definition. -/
def written : Composite → List String
  | .text template => [template]
  | .scalar _ | .absent | .shared .. => []
  | .present content | .boxed content => content.written
  | .seq items => writtenInItems items
  | .sorted entries | .unordered entries => writtenInEntries entries
  | .json value => value.leaves
  | .object fields => Json.leavesOfFields fields
  | .loop spec => spec.leaves
  | .invocation _ config => config.written
  | .element rest task => { rest with task := none }.leaves ++ task.written

def writtenInItems : List Composite → List String
  | [] => []
  | item :: rest => item.written ++ writtenInItems rest

def writtenInEntries : List (String × Composite) → List String
  | [] => []
  | (_, value) :: rest => value.written ++ writtenInEntries rest

end

mutual

/-- Every shared part of the value is one of the definitions, as it stands there. -/
def RefersTo (defs : List Composite) : Composite → Prop
  | .shared part fresh content => fresh = false ∧ defs[part]? = some content
  | .text _ | .scalar _ | .absent | .json _ | .object _ | .loop _ => True
  | .present content | .boxed content => content.RefersTo defs
  | .seq items => ItemsReferTo defs items
  | .sorted entries | .unordered entries => EntriesReferTo defs entries
  | .invocation _ config => config.RefersTo defs
  | .element _ task => task.RefersTo defs

def ItemsReferTo (defs : List Composite) : List Composite → Prop
  | [] => True
  | item :: rest => item.RefersTo defs ∧ ItemsReferTo defs rest

def EntriesReferTo (defs : List Composite) : List (String × Composite) → Prop
  | [] => True
  | (_, value) :: rest => value.RefersTo defs ∧ EntriesReferTo defs rest

end

/-- Every definition refers to earlier ones only. -/
def Family (defs : List Composite) : Prop :=
  ∀ (part : Nat) (content : Composite), defs[part]? = some content →
    content.RefersTo (defs.take part)

/-! ## What resolving a value comes by -/

mutual

/-- Resolving the value may come by these visits and end like this. A shared part that is entered
gives a new one with what its content becomes, and one that is passed stays as it is. -/
inductive Tour (scope : Scope) : Composite → List Visit → Except ResolveError Composite → Prop where
  | text {template : String} :
      Tour scope (.text template) [.asks template]
        ((scope.resolver template scope.facts).map .text)
  | scalar {value : Scalar} : Tour scope (.scalar value) [] (.ok (.scalar value))
  | absent : Tour scope .absent [] (.ok .absent)
  | present {content visits result} (inside : Tour scope content visits result) :
      Tour scope (.present content) visits (result.map .present)
  | boxed {content visits result} (inside : Tour scope content visits result) :
      Tour scope (.boxed content) visits (result.map .boxed)
  | seq {items visits result} (inside : TourItems scope items visits result) :
      Tour scope (.seq items) visits (result.map .seq)
  | sorted {entries visits result} (inside : TourEntries scope entries visits result) :
      Tour scope (.sorted entries) visits (result.map .sorted)
  | unordered {entries visits result} (inside : TourEntries scope entries visits result) :
      Tour scope (.unordered entries) visits (result.map .unordered)
  | json {value : Json} {asked result} (yields : Yields (value.resolve scope) asked result) :
      Tour scope (.json value) (asked.map .asks) (result.map .json)
  | object {fields asked result} (yields : Yields (Json.resolveFields scope fields) asked result) :
      Tour scope (.object fields) (asked.map .asks) (result.map .object)
  | loop {spec : LoopSpec} {asked result} (yields : Yields (spec.resolve scope) asked result) :
      Tour scope (.loop spec) (asked.map .asks) (result.map .loop)
  | invocation {kind config visits result} (inside : Tour scope config visits result) :
      Tour scope (.invocation kind config) visits (result.map (.invocation kind))
  | elementFails {rest : Element} {task asked error}
      (yields : Yields ({ rest with task := none }.resolve scope) asked (.error error)) :
      Tour scope (.element rest task) (asked.map .asks) (.error error)
  | element {rest resolved : Element} {task asked visits result}
      (yields : Yields ({ rest with task := none }.resolve scope) asked (.ok resolved))
      (inside : Tour scope task visits result) :
      Tour scope (.element rest task) (asked.map .asks ++ visits) (result.map (.element resolved))
  | entered {part fresh content visits result} (inside : Tour scope content visits result) :
      Tour scope (.shared part fresh content) (.enters part :: visits)
        (result.map (.shared part true))
  | passed {part fresh content} :
      Tour scope (.shared part fresh content) [.passes part] (.ok (.shared part fresh content))

/-- Items are resolved one after another, up to one that fails. -/
inductive TourItems (scope : Scope) :
    List Composite → List Visit → Except ResolveError (List Composite) → Prop where
  | nil : TourItems scope [] [] (.ok [])
  | fails {item rest visits error} (first : Tour scope item visits (.error error)) :
      TourItems scope (item :: rest) visits (.error error)
  | cons {item rest resolved visits later result} (first : Tour scope item visits (.ok resolved))
      (others : TourItems scope rest later result) :
      TourItems scope (item :: rest) (visits ++ later) (result.map (resolved :: ·))

inductive TourEntries (scope : Scope) : List (String × Composite) → List Visit →
    Except ResolveError (List (String × Composite)) → Prop where
  | nil : TourEntries scope [] [] (.ok [])
  | fails {key value rest visits error} (first : Tour scope value visits (.error error)) :
      TourEntries scope ((key, value) :: rest) visits (.error error)
  | cons {key value rest resolved visits later result}
      (first : Tour scope value visits (.ok resolved))
      (others : TourEntries scope rest later result) :
      TourEntries scope ((key, value) :: rest) (visits ++ later)
        (result.map ((key, resolved) :: ·))

end

mutual

theorem RefersTo.of_take {defs : List Composite} {count : Nat} : (value : Composite) →
    value.RefersTo (defs.take count) → value.RefersTo defs
  | .shared part fresh content, h => by
    obtain ⟨hfresh, hget⟩ := h
    rw [List.getElem?_take] at hget
    split at hget
    · exact ⟨hfresh, hget⟩
    · cases hget
  | .text _, _ | .scalar _, _ | .absent, _ | .json _, _ | .object _, _ | .loop _, _ => trivial
  | .present content, h | .boxed content, h => RefersTo.of_take content h
  | .seq items, h => ItemsReferTo.of_take items h
  | .sorted entries, h | .unordered entries, h => EntriesReferTo.of_take entries h
  | .invocation _ config, h => RefersTo.of_take config h
  | .element _ task, h => RefersTo.of_take task h

theorem ItemsReferTo.of_take {defs : List Composite} {count : Nat} : (items : List Composite) →
    ItemsReferTo (defs.take count) items → ItemsReferTo defs items
  | [], _ => trivial
  | item :: rest, h => ⟨RefersTo.of_take item h.1, ItemsReferTo.of_take rest h.2⟩

theorem EntriesReferTo.of_take {defs : List Composite} {count : Nat} :
    (entries : List (String × Composite)) →
    EntriesReferTo (defs.take count) entries → EntriesReferTo defs entries
  | [], _ => trivial
  | (_, value) :: rest, h => ⟨RefersTo.of_take value h.1, EntriesReferTo.of_take rest h.2⟩

end

/-- The strings that are written in a definition. -/
def writtenIn (defs : List Composite) (part : Nat) : List String :=
  (defs[part]?).elim [] written

/-- The visits go into known definitions where they meet them first, and ask for each string of the
value and of these definitions once at most. -/
structure Sparing (defs : List Composite) (known : List Nat) (strings : List String)
    (visits : List Visit) : Prop where
  fits : Fits known visits
  inside : ∀ part ∈ entered visits, part < defs.length
  once : (asked visits : Multiset String) ≤ strings + (entered visits).flatMap (writtenIn defs)

variable {scope : Scope} {defs : List Composite} {known : List Nat} {α β : Type}
  {strings strings' : List String} {visits later : List Visit}

theorem Sparing.append (h : Sparing defs known strings visits)
    (hlater : Sparing defs ((entered visits).reverse ++ known) strings' later) :
    Sparing defs known (strings ++ strings') (visits ++ later) where
  fits := fits_append.mpr ⟨h.fits, hlater.fits⟩
  inside part hmem := by
    rw [entered_append] at hmem
    exact (List.mem_append.mp hmem).elim (h.inside part) (hlater.inside part)
  once := by
    rw [asked_append, entered_append, List.flatMap_append]
    simp only [← Multiset.coe_add]
    calc (asked visits : Multiset String) + asked later
        ≤ (strings + (entered visits).flatMap (writtenIn defs)) +
            (strings' + (entered later).flatMap (writtenIn defs)) := add_le_add h.once hlater.once
      _ = strings + strings' + ((entered visits).flatMap (writtenIn defs) +
            (entered later).flatMap (writtenIn defs)) := add_add_add_comm ..

/-- A computation that fails early asks for less. -/
theorem Sparing.of_append (h : Sparing defs known strings visits) (strings' : List String) :
    Sparing defs known (strings ++ strings') visits where
  fits := h.fits
  inside := h.inside
  once := by
    rw [← Multiset.coe_add, add_right_comm]
    exact h.once.trans (Multiset.le_add_right _ _)

/-- Whatever was met before, resolving makes a tour of the given kind, and is sparing. -/
def Tours (defs : List Composite) (strings : List String) (resolve : Resolving α)
    (tour : List Visit → Except ResolveError α → Prop) : Prop :=
  ∀ known, ∃ visits result, tour visits result ∧ Sparing defs known strings visits ∧
    ∀ slots calls, resolve.run ⟨slots, known, calls⟩ =
      (result, ⟨slots, (entered visits).reverse ++ known, (asked visits).reverse ++ calls⟩)

namespace Tours

variable {resolve : Resolving α} {tour : List Visit → Except ResolveError α → Prop}

theorem of_recites (h : Recites scope strings resolve)
    (htour : ∀ asked result, Yields resolve asked result → tour (asked.map .asks) result) :
    Tours defs strings resolve tour := by
  obtain ⟨texts, result, htold, hyields⟩ := h
  intro known
  refine ⟨texts.map .asks, result, htour texts result hyields, ⟨fits_asks known texts, ?_, ?_⟩, ?_⟩
  · rw [entered_asks]
    nofun
  · have hpart : (texts : Multiset String) ≤ strings := by
      cases result with
      | ok value => rw [htold.1]
      | error error =>
        obtain ⟨before, text, after, rfl, rfl, -, -⟩ := htold
        rw [List.append_cons before text after]
        exact Multiset.coe_le.mpr (List.sublist_append_left _ _).subperm
    rw [asked_asks, entered_asks]
    exact hpart.trans (Multiset.le_add_right _ _)
  · intro slots calls
    rw [hyields, entered_asks, asked_asks]
    rfl

protected theorem pure {value : α} (h : tour [] (.ok value)) :
    Tours defs [] (Pure.pure value : Resolving α) tour :=
  fun _ ↦ ⟨[], .ok value, h, ⟨trivial, nofun, Multiset.zero_le _⟩, fun _ _ ↦ rfl⟩

protected theorem bind {next : α → Resolving β}
    {tourNext : α → List Visit → Except ResolveError β → Prop}
    {tour' : List Visit → Except ResolveError β → Prop} (h : Tours defs strings resolve tour)
    (hnext : ∀ value, Tours defs strings' (next value) (tourNext value))
    (hfails : ∀ visits error, tour visits (.error error) → tour' visits (.error error))
    (hgoes : ∀ visits value later result, tour visits (.ok value) → tourNext value later result →
      tour' (visits ++ later) result) :
    Tours defs (strings ++ strings') (resolve >>= next) tour' := by
  intro known
  obtain ⟨visits, result, htour, hsparing, hrun⟩ := h known
  cases result with
  | error error =>
    refine ⟨visits, .error error, hfails visits error htour, hsparing.of_append strings', ?_⟩
    exact fun slots calls ↦ run_bind_of_error (hrun slots calls)
  | ok value =>
    obtain ⟨later, final, hlater, hsparing', hrun'⟩ :=
      hnext value ((entered visits).reverse ++ known)
    refine ⟨visits ++ later, final, hgoes visits value later final htour hlater,
      hsparing.append hsparing', fun slots calls ↦ ?_⟩
    rw [run_bind_of_ok (hrun slots calls), hrun', entered_append, asked_append]
    simp only [List.reverse_append, List.append_assoc]

/-- The value that is given may be rebuilt. -/
theorem map {build : α → β} {tour' : List Visit → Except ResolveError β → Prop}
    (h : Tours defs strings resolve tour)
    (htour : ∀ visits result, tour visits result → tour' visits (result.map build)) :
    Tours defs strings (do return build (← resolve)) tour' := by
  have hbuild (value : α) : Tours defs [] (Pure.pure (build value) : Resolving β)
      fun later result ↦ later = [] ∧ result = .ok (build value) := Tours.pure ⟨rfl, rfl⟩
  have hall := h.bind hbuild (fun visits error ↦ htour visits (.error error)) ?_
  · rwa [List.append_nil] at hall
  · rintro visits value later result hvisits ⟨rfl, rfl⟩
    rw [List.append_nil]
    exact htour visits (.ok value) hvisits

theorem rebuilt (h : Tours defs strings resolve tour) (build : α → β) :
    Tours defs strings (do return build (← resolve)) fun visits result ↦
      ∃ inside, tour visits inside ∧ result = inside.map build :=
  h.map fun _ inside htour ↦ ⟨inside, htour, rfl⟩

/-- A value without shared parts recites its strings. -/
theorem leaf {value : Composite} {build : α → Composite} (h : Recites scope strings resolve)
    (htour : ∀ asked result, Yields resolve asked result →
      value.Tour scope (asked.map .asks) (result.map build)) :
    Tours defs strings (do return build (← resolve)) (value.Tour scope) := by
  have hresolve : Tours defs strings resolve fun visits result ↦
      value.Tour scope visits (result.map build) := of_recites h htour
  exact hresolve.map fun _ _ hbuilt ↦ hbuilt

end Tours

theorem enterShared_run (part : Nat) (r : Resolution) :
    (Resolving.enterShared part).run r =
      if part ∈ r.shared then (.ok false, r)
      else (.ok true, { r with shared := part :: r.shared }) := by
  have hstart : (Resolving.enterShared part).run r =
      (if part ∈ r.shared then (return false : Resolving Bool) else do
        set { r with shared := part :: r.shared }
        return true).run r := rfl
  rw [hstart]
  split <;> rfl

/-- A shared part is entered and toured if it is new, and passed otherwise. -/
theorem shared_tours {part : Nat} {fresh : Bool} {content : Composite}
    (hpart : defs[part]? = some content)
    (h : Tours defs content.written (content.resolve scope) (content.Tour scope)) :
    Tours defs [] ((Composite.shared part fresh content).resolve scope)
      ((Composite.shared part fresh content).Tour scope) := by
  intro known
  by_cases hmem : part ∈ known
  · refine ⟨[.passes part], _, .passed, ⟨⟨hmem, trivial⟩, nofun, Multiset.zero_le _⟩, ?_⟩
    intro slots calls
    have henter := enterShared_run part ⟨slots, known, calls⟩
    rw [if_pos hmem] at henter
    rw [resolve, run_bind_of_ok henter]
    rfl
  · obtain ⟨visits, result, htour, hsparing, hrun⟩ := h (part :: known)
    refine ⟨.enters part :: visits, _, .entered htour, ⟨⟨hmem, hsparing.fits⟩, ?_, ?_⟩, ?_⟩
    · intro found hfound
      rcases List.mem_cons.mp hfound with rfl | hlater
      · exact (List.getElem?_eq_some_iff.mp hpart).1
      · exact hsparing.inside found hlater
    · have hwritten : writtenIn defs part = content.written := by
        rw [writtenIn, hpart]
        rfl
      have honce := hsparing.once
      change (asked visits : Multiset String) ≤
        ([] : List String) + (part :: entered visits).flatMap (writtenIn defs)
      rwa [List.flatMap_cons, hwritten, Multiset.coe_nil, zero_add, ← Multiset.coe_add]
    · intro slots calls
      have henter := enterShared_run part ⟨slots, known, calls⟩
      rw [if_neg hmem] at henter
      rw [resolve, run_bind_of_ok henter]
      have hcontent := hrun slots calls
      cases result with
      | error error =>
        simp only [if_true]
        rw [run_bind_of_error hcontent]
        simp [entered, entered?, asked, text?]
        rfl
      | ok value =>
        simp only [if_true]
        rw [run_bind_of_ok hcontent]
        simp [entered, entered?, asked, text?]
        rfl

variable (scope) in
mutual

theorem resolve_tours (hdefs : Family defs) : (value : Composite) → value.RefersTo defs →
    Tours defs value.written (value.resolve scope) (value.Tour scope)
  | .text template, _ => by
    refine Tours.leaf (Recites.text scope template) fun asked result hyields ↦ ?_
    obtain ⟨rfl, rfl⟩ := hyields.unique (Yields.text scope template)
    exact .text
  | .scalar _, _ => Tours.pure .scalar
  | .absent, _ => Tours.pure .absent
  | .present content, h => (resolve_tours hdefs content h).map fun _ _ ↦ .present
  | .boxed content, h => (resolve_tours hdefs content h).map fun _ _ ↦ .boxed
  | .seq items, h => (resolveItems_tours hdefs items h).map fun _ _ ↦ .seq
  | .sorted entries, h => (resolveEntries_tours hdefs entries h).map fun _ _ ↦ .sorted
  | .unordered entries, h => (resolveEntries_tours hdefs entries h).map fun _ _ ↦ .unordered
  | .json value, _ => Tours.leaf (Recites.json scope value) fun _ _ ↦ .json
  | .object fields, _ => Tours.leaf (Recites.jsonFields scope fields) fun _ _ ↦ .object
  | .loop spec, _ => Tours.leaf (Recites.loop scope spec) fun _ _ ↦ .loop
  | .invocation _ config, h => (resolve_tours hdefs config h).map fun _ _ ↦ .invocation
  | .element rest task, h => by
    have hrest : Tours defs { rest with task := none }.leaves
        ({ rest with task := none }.resolve scope) fun visits result ↦
          ∃ asked, visits = asked.map .asks ∧
            Yields ({ rest with task := none }.resolve scope) asked result :=
      Tours.of_recites (Recites.element scope _) fun asked _ hyields ↦ ⟨asked, rfl, hyields⟩
    have htask (resolved : Element) :=
      (resolve_tours hdefs task h).rebuilt (Composite.element resolved)
    refine hrest.bind htask ?_ ?_
    · rintro visits error ⟨asked, rfl, hyields⟩
      exact .elementFails hyields
    · rintro visits resolved later result ⟨asked, rfl, hyields⟩ ⟨inside, htour, rfl⟩
      exact .element hyields htour
  | .shared part fresh content, h => by
    have hcontent : content.RefersTo defs := RefersTo.of_take content (hdefs part content h.2)
    exact shared_tours h.2 (resolve_tours hdefs content hcontent)

theorem resolveItems_tours (hdefs : Family defs) : (items : List Composite) →
    ItemsReferTo defs items →
    Tours defs (writtenInItems items) (resolveItems scope items) (TourItems scope items)
  | [], _ => Tours.pure .nil
  | item :: rest, h => by
    have hrest (resolved : Composite) := (resolveItems_tours hdefs rest h.2).rebuilt (resolved :: ·)
    refine (resolve_tours hdefs item h.1).bind hrest (fun _ _ ↦ .fails) ?_
    rintro visits resolved later result hfirst ⟨others, hothers, rfl⟩
    exact .cons hfirst hothers

theorem resolveEntries_tours (hdefs : Family defs) : (entries : List (String × Composite)) →
    EntriesReferTo defs entries →
    Tours defs (writtenInEntries entries) (resolveEntries scope entries)
      (TourEntries scope entries)
  | [], _ => Tours.pure .nil
  | (key, value) :: rest, h => by
    have hrest (resolved : Composite) :=
      (resolveEntries_tours hdefs rest h.2).rebuilt ((key, resolved) :: ·)
    refine (resolve_tours hdefs value h.1).bind hrest (fun _ _ ↦ .fails) ?_
    rintro visits resolved later result hfirst ⟨others, hothers, rfl⟩
    exact .cons hfirst hothers

end

/-! ## Values resolved together -/

theorem runAll_tours (scope : Scope) (hdefs : Family defs) {values : List Composite}
    (hrefer : ∀ value ∈ values, value.RefersTo defs) (known : List Nat) (slots : List Slot)
    (calls : List String) :
    ∃ tour : List (List Visit × Except ResolveError Composite),
      List.Forall₂ (fun value told ↦ value.Tour scope told.1 told.2) values tour ∧
      Sparing defs known (values.flatMap written) (tour.flatMap (·.1)) ∧
      runAll scope true ⟨slots, known, calls⟩ values = (tour.map (·.2),
        ⟨slots, (entered (tour.flatMap (·.1))).reverse ++ known,
          (asked (tour.flatMap (·.1))).reverse ++ calls⟩) := by
  induction values generalizing known calls with
  | nil => exact ⟨[], .nil, ⟨trivial, nofun, Multiset.zero_le _⟩, rfl⟩
  | cons value rest ih =>
    obtain ⟨visits, result, htour, hsparing, hrun⟩ :=
      resolve_tours scope hdefs value (hrefer value List.mem_cons_self) known
    obtain ⟨tour, htours, hothers, hruns⟩ :=
      ih (fun found hmem ↦ hrefer found (List.mem_cons_of_mem _ hmem))
        ((entered visits).reverse ++ known) ((asked visits).reverse ++ calls)
    refine ⟨(visits, result) :: tour, .cons htour htours, hsparing.append hothers, ?_⟩
    have hfirst : run scope value ⟨slots, known, calls⟩ = _ := hrun slots calls
    rw [runAll, hfirst]
    simp only [if_true, hruns, List.flatMap_cons, List.map_cons, entered_append, asked_append,
      List.reverse_append, List.append_assoc]

/-- A resolution of its own gives what the value gives alone. -/
theorem runAll_apart (hdefs : Family defs) {values : List Composite}
    (hrefer : ∀ value ∈ values, value.RefersTo defs) (calls : List String) :
    (runAll scope false (.start calls) values).1 =
        values.map (fun value ↦ (run scope value (.start [])).1) ∧
      (runAll scope false (.start calls) values).2.calls =
        values.reverse.flatMap (fun value ↦ (run scope value (.start [])).2.calls) ++ calls := by
  induction values generalizing calls with
  | nil => exact ⟨rfl, rfl⟩
  | cons value rest ih =>
    obtain ⟨visits, result, -, -, hrun⟩ :=
      resolve_tours scope hdefs value (hrefer value List.mem_cons_self) []
    have hfirst (calls : List String) : run scope value (.start calls) =
        (result, ⟨[], (entered visits).reverse ++ [], (asked visits).reverse ++ calls⟩) :=
      hrun [] calls
    obtain ⟨hresults, hcalls⟩ := ih (fun found hmem ↦ hrefer found (List.mem_cons_of_mem _ hmem))
      ((asked visits).reverse ++ calls)
    constructor
    · rw [runAll, hfirst, List.map_cons, hfirst, ← hresults]
      rfl
    · rw [runAll, hfirst]
      change (runAll scope false (.start ((asked visits).reverse ++ calls)) rest).2.calls = _
      rw [hcalls, List.reverse_cons, List.flatMap_append, List.flatMap_singleton, hfirst]
      simp only [List.append_nil, List.append_assoc]

theorem flatMap_writtenIn_range (defs : List Composite) :
    (List.range defs.length).flatMap (writtenIn defs) = defs.flatMap written := by
  induction defs with
  | nil => rfl
  | cons first rest ih =>
    rw [List.length_cons, List.range_succ_eq_map, List.flatMap_cons, List.flatMap_map,
      List.flatMap_cons, ← ih]
    rfl

/-- All definitions together have the strings of those that are entered. -/
theorem flatMap_writtenIn_le {parts : List Nat} (hnodup : parts.Nodup)
    (hinside : ∀ part ∈ parts, part < defs.length) :
    (parts.flatMap (writtenIn defs) : Multiset String) ≤ defs.flatMap written := by
  obtain ⟨sorted, hperm, hsublist⟩ : parts.Subperm (List.range defs.length) :=
    List.subperm_of_subset hnodup fun part hmem ↦ List.mem_range.mpr (hinside part hmem)
  have hsame : (sorted.flatMap (writtenIn defs)).Perm (parts.flatMap (writtenIn defs)) :=
    hperm.flatMap fun _ _ ↦ .refl _
  rw [← flatMap_writtenIn_range, Multiset.coe_le]
  exact ⟨_, hsame, hsublist.flatMap _⟩

/-- Values that are resolved together enter every shared part where they meet it first, in the order
of the walk over all of them, and pass it everywhere else; each string of the values and of the
definitions is asked for once at most. Values that are resolved apart know nothing of each other. -/
theorem runAll_shared (scope : Scope) {defs values : List Composite} (hdefs : Family defs)
    (hrefer : ∀ value ∈ values, value.RefersTo defs) (calls : List String) :
    (∃ tour : List (List Visit × Except ResolveError Composite),
      List.Forall₂ (fun value told ↦ value.Tour scope told.1 told.2) values tour ∧
      FirstOnly (tour.flatMap (·.1)) ∧
      (runAll scope true (.start calls) values).1 = tour.map (·.2) ∧
      (runAll scope true (.start calls) values).2.calls =
        (asked (tour.flatMap (·.1))).reverse ++ calls ∧
      (asked (tour.flatMap (·.1)) : Multiset String) ≤
        values.flatMap written + defs.flatMap written) ∧
    (runAll scope true (.start calls) values).2.calls.length ≤
      (values.flatMap written).length + (defs.flatMap written).length + calls.length ∧
    (runAll scope false (.start calls) values).1 =
      values.map (fun value ↦ (run scope value (.start [])).1) ∧
    (runAll scope false (.start calls) values).2.calls =
      values.reverse.flatMap (fun value ↦ (run scope value (.start [])).2.calls) ++ calls := by
  obtain ⟨tour, htour, hsparing, hrun⟩ := runAll_tours scope hdefs hrefer [] [] calls
  have hrun' : runAll scope true (.start calls) values = _ := hrun
  have honce : (asked (tour.flatMap (·.1)) : Multiset String) ≤
      values.flatMap written + defs.flatMap written :=
    calc (asked (tour.flatMap (·.1)) : Multiset String)
        ≤ values.flatMap written + (entered (tour.flatMap (·.1))).flatMap (writtenIn defs) :=
          hsparing.once
      _ ≤ values.flatMap written + defs.flatMap written := by
          gcongr
          exact flatMap_writtenIn_le hsparing.fits.nodup.1 hsparing.inside
  have hlength : (asked (tour.flatMap (·.1))).length ≤
      (values.flatMap written).length + (defs.flatMap written).length := by
    simpa using Multiset.card_le_card honce
  refine ⟨⟨tour, htour, hsparing.fits.firstOnly, ?_, ?_, honce⟩, ?_,
    runAll_apart hdefs hrefer calls⟩
  · rw [hrun']
  · rw [hrun']
  · rw [hrun']
    calc ((asked (tour.flatMap (·.1))).reverse ++ calls).length
        = (asked (tour.flatMap (·.1))).length + calls.length := by simp
      _ ≤ (values.flatMap written).length + (defs.flatMap written).length + calls.length :=
          Nat.add_le_add_right hlength _

/-- A resolver that has no answer to `b`. -/
def unansweredResolver : Resolver := fun text _ ↦
  if text = "b" then .error ⟨text, "no answer"⟩ else .ok (text ++ text)

/-- A part that is met three times by one that fails after that. -/
def sharedDefs : List Composite :=
  let first := .shared 0 false (.text "a")
  [.text "a", .seq [first, first, .json (.str "b"), first]]

def sharedValues : List Composite :=
  let first := .shared 0 false (.text "a")
  let second := .shared 1 false (.seq [first, first, .json (.str "b"), first])
  [.boxed second, .seq [first, .text "c"], .present second]

/-- The second part fails where it is entered, and later stays as it is, with nothing asked. -/
theorem runAll_shared_failing :
    Family sharedDefs ∧ (∀ value ∈ sharedValues, value.RefersTo sharedDefs) ∧
      (runAll ⟨unansweredResolver, ∅⟩ true (.start []) sharedValues).1 =
        [.error ⟨"b", "no answer"⟩, .ok (.seq [.shared 0 false (.text "a"), .text "cc"]),
          .ok (.present (.shared 1 false (sharedDefs.getLastD .absent)))] ∧
      (runAll ⟨unansweredResolver, ∅⟩ true (.start []) sharedValues).2.calls = ["c", "b", "a"] ∧
      (runAll ⟨unansweredResolver, ∅⟩ true (.start []) sharedValues).2.calls.length ≤
        (sharedValues.flatMap written).length + (sharedDefs.flatMap written).length + 0 := by
  have hdefs : Family sharedDefs := by
    intro part content hget
    match part, hget with
    | 0, rfl => exact trivial
    | 1, rfl => exact ⟨⟨rfl, rfl⟩, ⟨rfl, rfl⟩, trivial, ⟨rfl, rfl⟩, trivial⟩
  have hrefer : ∀ value ∈ sharedValues, value.RefersTo sharedDefs := by
    intro value hmem
    simp only [sharedValues, List.mem_cons, List.not_mem_nil, or_false] at hmem
    rcases hmem with rfl | rfl | rfl
    · exact ⟨rfl, rfl⟩
    · exact ⟨⟨rfl, rfl⟩, trivial, trivial⟩
    · exact ⟨rfl, rfl⟩
  refine ⟨hdefs, hrefer, rfl, rfl, ?_⟩
  exact (runAll_shared ⟨unansweredResolver, ∅⟩ hdefs hrefer []).2.1

end Composite

end Playbook
