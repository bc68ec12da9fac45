import Playbook.Proofs.Outline.Reading
import Playbook.Proofs.Overlay
import Playbook.Proofs.Traversal
import Playbook.Task.Basic

/-!
# Registering kinds of tasks

A registry that started empty is told one kind after another, and some of them it refuses. Whatever
the history is, a name stands for the first kind that came with it, unless a control field has that
name. So no kind takes the place of another, what is refused leaves no trace, and registering a list
at once is registering its kinds one by one until the first is refused.
-/

namespace Playbook

namespace Registry

/-- Registers a kind, and stays as it is if the kind is refused. -/
def attempt (registry : Registry) (kind : TaskKind) : Registry :=
  match registry.register kind with
  | .ok larger => larger
  | .error _ => registry

/-- The registry that was empty at first, after one attempt for each kind. -/
def after (kinds : List TaskKind) : Registry :=
  kinds.foldl attempt empty

/-- A new task of the kind with the given name. -/
def instantiate (registry : Registry) (name : String) : Except TaskError Task :=
  (registry.find name).map Task.new

/-! ## Names -/

theorem names_ascending (registry : Registry) : registry.names.Pairwise (· < ·) :=
  List.pairwise_map.mpr registry.kinds.sorted

theorem has_eq_true {registry : Registry} {name : String} :
    registry.has name = true ↔ ∃ kind, registry.kinds.get? name = some kind :=
  Option.isSome_iff_exists

theorem mem_names {registry : Registry} {name : String} :
    name ∈ registry.names ↔ registry.has name = true := by
  rw [has_eq_true]
  constructor
  · intro hmem
    obtain ⟨⟨found, kind⟩, hentry, rfl⟩ := List.mem_map.mp hmem
    exact ⟨kind, registry.kinds.sorted.lookup_eq_some.mpr hentry⟩
  · rintro ⟨kind, hkind⟩
    exact List.mem_map.mpr ⟨(name, kind), registry.kinds.sorted.lookup_eq_some.mp hkind, rfl⟩

theorem find_eq_ok {registry : Registry} {name : String} {kind : TaskKind} :
    registry.find name = .ok kind ↔ registry.kinds.get? name = some kind := by
  unfold find
  cases registry.kinds.get? name <;> simp

theorem find_eq_error {registry : Registry} {name : String} {error : TaskError} :
    registry.find name = .error error ↔
      registry.has name = false ∧ error = .notRegistered name := by
  unfold find has SortedMap.contains
  cases registry.kinds.get? name <;> simp [eq_comm]

/-! ## One registration -/

theorem isSome_ofKey? {name : String} :
    (ControlField.ofKey? name).isSome ↔ ∃ field : ControlField, field.text = name := by
  rw [Option.isSome_iff_exists]
  exact exists_congr fun field ↦ Outline.ofKey?_eq_some

theorem register_eq_error {registry : Registry} {kind : TaskKind} {error : RegistrationError} :
    registry.register kind = .error error ↔
      (∃ field : ControlField, field.text = kind.name) ∧ error = .reservedName kind.name ∨
      (∀ field : ControlField, field.text ≠ kind.name) ∧ registry.has kind.name = true ∧
        error = .duplicate kind.name := by
  unfold register
  rw [← Outline.ofKey?_eq_none, ← isSome_ofKey?]
  cases ControlField.ofKey? kind.name <;> cases registry.has kind.name <;> simp [eq_comm]

theorem register_eq_ok {registry larger : Registry} {kind : TaskKind} :
    registry.register kind = .ok larger ↔
      (∀ field : ControlField, field.text ≠ kind.name) ∧ registry.has kind.name = false ∧
        larger = ⟨registry.kinds.insert kind.name kind⟩ := by
  unfold register
  rw [← Outline.ofKey?_eq_none]
  cases ControlField.ofKey? kind.name <;> cases registry.has kind.name <;> simp [eq_comm]

theorem attempt_of_ok {registry larger : Registry} {kind : TaskKind}
    (h : registry.register kind = .ok larger) : registry.attempt kind = larger := by
  rw [attempt, h]

theorem attempt_of_error {registry : Registry} {kind : TaskKind} {error : RegistrationError}
    (h : registry.register kind = .error error) : registry.attempt kind = registry := by
  rw [attempt, h]

/-- What a registry knew it still knows, and a kind that no control field has the name of is known
if its name was free. -/
theorem get?_attempt (registry : Registry) (kind : TaskKind) (name : String) :
    (registry.attempt kind).kinds.get? name = (registry.kinds.get? name).or
      (if ControlField.ofKey? name = none ∧ kind.name = name then some kind else none) := by
  cases hregister : registry.register kind with
  | ok larger =>
    rw [attempt_of_ok hregister]
    obtain ⟨hfree, hnew, rfl⟩ := register_eq_ok.mp hregister
    rw [SortedMap.get?_insert]
    by_cases hname : name = kind.name
    · subst hname
      have hnone : registry.kinds.get? kind.name = none := by
        rwa [has, SortedMap.contains, Option.isSome_eq_false_iff, Option.isNone_iff_eq_none]
          at hnew
      rw [if_pos rfl, hnone, if_pos ⟨Outline.ofKey?_eq_none.mpr hfree, rfl⟩, Option.none_or]
    · rw [if_neg hname, if_neg fun h ↦ hname h.2.symm, Option.or_none]
  | error error =>
    rw [attempt_of_error hregister]
    by_cases hname : ControlField.ofKey? name = none ∧ kind.name = name
    · obtain ⟨hfree, rfl⟩ := hname
      rcases register_eq_error.mp hregister with ⟨⟨field, hfield⟩, -⟩ | ⟨-, hhas, -⟩
      · exact absurd hfield (Outline.ofKey?_eq_none.mp hfree field)
      · obtain ⟨known, hknown⟩ := has_eq_true.mp hhas
        rw [hknown, Option.some_or]
    · rw [if_neg hname, Option.or_none]

/-! ## Histories -/

theorem get?_foldl_attempt (registry : Registry) (kinds : List TaskKind) (name : String) :
    (kinds.foldl attempt registry).kinds.get? name = (registry.kinds.get? name).or
      (if ControlField.ofKey? name = none then kinds.find? (·.name = name) else none) := by
  induction kinds generalizing registry with
  | nil => simp
  | cons kind rest ih =>
    rw [List.foldl_cons, ih, get?_attempt, Option.or_assoc]
    refine congrArg _ ?_
    by_cases hfree : ControlField.ofKey? name = none
    · by_cases hname : kind.name = name <;> simp [hfree, hname]
    · simp [hfree]

/-- After a history a name stands for the first kind that came with it. -/
theorem get?_after (kinds : List TaskKind) (name : String) :
    (after kinds).kinds.get? name =
      if ControlField.ofKey? name = none then kinds.find? (·.name = name) else none := by
  rw [after, get?_foldl_attempt]
  exact Option.none_or

theorem after_concat (kinds : List TaskKind) (kind : TaskKind) :
    after (kinds ++ [kind]) = (after kinds).attempt kind := by
  rw [after, List.foldl_append]
  rfl

theorem has_after {kinds : List TaskKind} {name : String} :
    (after kinds).has name = true ↔
      (∀ field : ControlField, field.text ≠ name) ∧ ∃ kind ∈ kinds, kind.name = name := by
  rw [has, SortedMap.contains, get?_after, ← Outline.ofKey?_eq_none]
  by_cases hfree : ControlField.ofKey? name = none
  · simp [hfree]
  · simp [hfree]

/-! ## Lists at once -/

/-- Each kind of the list can be registered after those before it. -/
def Registrable (registry : Registry) (kinds : List TaskKind) : Prop :=
  ∀ before kind rest, kinds = before ++ kind :: rest →
    ∃ larger, (before.foldl attempt registry).register kind = .ok larger

theorem registrable_nil (registry : Registry) : registry.Registrable [] := by
  intro before kind rest h
  cases before <;> cases h

theorem registrable_cons {registry : Registry} {kind : TaskKind} {rest : List TaskKind} :
    registry.Registrable (kind :: rest) ↔
      ∃ larger, registry.register kind = .ok larger ∧ larger.Registrable rest := by
  constructor
  · intro h
    obtain ⟨larger, hlarger⟩ : ∃ larger, registry.register kind = .ok larger := h [] kind rest rfl
    refine ⟨larger, hlarger, fun before later others hrest ↦ ?_⟩
    have hlater := h (kind :: before) later others (congrArg (kind :: ·) hrest)
    rwa [List.foldl_cons, attempt_of_ok hlarger] at hlater
  · rintro ⟨larger, hlarger, hrest⟩ before later others h
    cases before with
    | nil =>
      obtain ⟨rfl, rfl⟩ := List.cons.inj h
      exact ⟨larger, hlarger⟩
    | cons first before =>
      obtain ⟨rfl, rfl⟩ := List.cons.inj h
      rw [List.foldl_cons, attempt_of_ok hlarger]
      exact hrest before later others rfl

theorem registerAll_eq_ok {registry whole : Registry} {kinds : List TaskKind} :
    registry.registerAll kinds = .ok whole ↔
      registry.Registrable kinds ∧ whole = kinds.foldl attempt registry := by
  induction kinds generalizing registry with
  | nil => simp [registerAll, registrable_nil, eq_comm]
  | cons kind rest ih =>
    rw [registerAll, registrable_cons, List.foldl_cons, attempt]
    cases registry.register kind with
    | ok larger => simp [ih]
    | error error => simp

theorem registerAll_eq_error {registry : Registry} {kinds : List TaskKind}
    {error : RegistrationError} :
    registry.registerAll kinds = .error error ↔
      ∃ before kind rest, kinds = before ++ kind :: rest ∧ registry.Registrable before ∧
        (before.foldl attempt registry).register kind = .error error := by
  refine error_iff_first (fun kinds registry ↦ registry.registerAll kinds)
    (fun kind registry ↦ registry.register kind) (fun _ ↦ rfl) ?_ kinds registry error ?_ ?_
  · intro kind rest registry
    rw [registerAll]
    cases registry.register kind <;> rfl
  · intro before
    simp [registerAll_eq_ok]
  · intro before kind whole _ hwhole
    rw [(registerAll_eq_ok.mp hwhole).2]

/-- Kinds can be registered one after another if they have different names, and none that a control
field has or that is taken already. -/
theorem registrable_iff {registry : Registry} {kinds : List TaskKind} :
    registry.Registrable kinds ↔ (kinds.map (·.name)).Nodup ∧
      ∀ kind ∈ kinds, (∀ field : ControlField, field.text ≠ kind.name) ∧
        registry.has kind.name = false := by
  induction kinds generalizing registry with
  | nil => simp [registrable_nil]
  | cons kind rest ih =>
    have hlarger (name : String) :
        (⟨registry.kinds.insert kind.name kind⟩ : Registry).has name = false ↔
          name ≠ kind.name ∧ registry.has name = false := by
      rw [has, has, SortedMap.contains, SortedMap.contains, SortedMap.get?_insert]
      by_cases hname : name = kind.name <;> simp [hname]
    rw [registrable_cons, List.map_cons, List.nodup_cons, List.forall_mem_cons]
    constructor
    · rintro ⟨larger, hregister, hrest⟩
      obtain ⟨hfree, hnew, rfl⟩ := register_eq_ok.mp hregister
      obtain ⟨hnodup, hall⟩ := ih.mp hrest
      refine ⟨⟨fun hmem ↦ ?_, hnodup⟩, ⟨hfree, hnew⟩, fun later hmem ↦ ?_⟩
      · obtain ⟨later, hlater, hname⟩ := List.mem_map.mp hmem
        exact ((hlarger later.name).mp (hall later hlater).2).1 hname
      · obtain ⟨hunreserved, hhas⟩ := hall later hmem
        exact ⟨hunreserved, ((hlarger later.name).mp hhas).2⟩
    · rintro ⟨⟨hfirst, hnodup⟩, ⟨hfree, hnew⟩, hall⟩
      refine ⟨_, register_eq_ok.mpr ⟨hfree, hnew, rfl⟩, ih.mpr ⟨hnodup, fun later hmem ↦ ?_⟩⟩
      obtain ⟨hunreserved, hhas⟩ := hall later hmem
      have hne : later.name ≠ kind.name := fun heq ↦
        hfirst (heq ▸ List.mem_map_of_mem hmem)
      exact ⟨hunreserved, (hlarger later.name).mpr ⟨hne, hhas⟩⟩

theorem Registrable.perm {registry : Registry} {kinds others : List TaskKind}
    (h : registry.Registrable kinds) (hperm : kinds.Perm others) :
    registry.Registrable others := by
  obtain ⟨hnodup, hall⟩ := registrable_iff.mp h
  refine registrable_iff.mpr ⟨(hperm.map _).nodup_iff.mp hnodup, fun kind hmem ↦ ?_⟩
  exact hall kind (hperm.mem_iff.mpr hmem)

/-- In whatever order kinds come, the same names are known in the end. -/
theorem names_after_perm {kinds others : List TaskKind} (hperm : kinds.Perm others) :
    (after kinds).names = (after others).names := by
  have : Std.Irrefl fun first second : String ↦ first < second := ⟨String.lt_irrefl⟩
  have : Std.Antisymm fun first second : String ↦ first < second :=
    ⟨fun _ _ hlt hgt ↦ absurd hlt (String.lt_asymm hgt)⟩
  refine (names_ascending _).eq_of_mem_iff (names_ascending _) fun name ↦ ?_
  rw [mem_names, mem_names, has_after, has_after]
  simp only [hperm.mem_iff]

end Registry

open Registry

theorem Task.kind_new (kind : TaskKind) : (Task.new kind).kind = kind := by
  cases kind <;> rfl

/-- After any history of registrations, refused ones among them: the names stand in order, no
control field has one of them, and they are those that are known. A kind is refused because a
control field has its name, or else because its name is known already, and then nothing changes. A
known name gives a task of the first kind that came with it, and no other name gives one.
Registering a list at once does what registering its kinds one by one does as long as none is
refused, and fails with the first refusal; in another order it succeeds as well, with the same
names. -/
theorem registry_after (kinds : List TaskKind) :
    ((after kinds).names.Pairwise (· < ·) ∧
      (∀ name, name ∈ (after kinds).names ↔ (after kinds).has name = true) ∧
      ∀ field : ControlField, field.text ∉ (after kinds).names) ∧
    (∀ kind error, (after kinds).register kind = .error error ↔
      (∃ field : ControlField, field.text = kind.name) ∧ error = .reservedName kind.name ∨
      (∀ field : ControlField, field.text ≠ kind.name) ∧ kind.name ∈ (after kinds).names ∧
        error = .duplicate kind.name) ∧
    (∀ kind, (∃ error, (after kinds).register kind = .error error) →
      after (kinds ++ [kind]) = after kinds) ∧
    (∀ kind larger, (after kinds).register kind = .ok larger →
      after (kinds ++ [kind]) = larger ∧
      ∀ name, name ∈ larger.names ↔ name = kind.name ∨ name ∈ (after kinds).names) ∧
    (∀ name, (after kinds).has name = true → ∃ kind task, kinds.find? (·.name = name) = some kind ∧
      (after kinds).instantiate name = .ok task ∧ task = Task.new kind ∧ task.kind.name = name) ∧
    (∀ name, (after kinds).has name = false →
      (after kinds).instantiate name = .error (.notRegistered name)) ∧
    (∀ whole, Registry.ofKinds kinds = .ok whole ↔
      empty.Registrable kinds ∧ whole = after kinds) ∧
    (∀ error, Registry.ofKinds kinds = .error error ↔
      ∃ before kind rest, kinds = before ++ kind :: rest ∧ empty.Registrable before ∧
        (after before).register kind = .error error) ∧
    ∀ others, kinds.Perm others →
      ((∃ whole, Registry.ofKinds kinds = .ok whole) ↔
        ∃ whole, Registry.ofKinds others = .ok whole) ∧
      ∀ whole whole', Registry.ofKinds kinds = .ok whole → Registry.ofKinds others = .ok whole' →
        whole.names = whole'.names := by
  refine ⟨⟨names_ascending _, fun name ↦ mem_names, ?_⟩, ?_, ?_, ?_, ?_, ?_,
    fun whole ↦ registerAll_eq_ok, fun error ↦ registerAll_eq_error, ?_⟩
  · intro field hmem
    exact (has_after.mp (mem_names.mp hmem)).1 field rfl
  · intro kind error
    rw [mem_names, register_eq_error]
  · rintro kind ⟨error, herror⟩
    rw [after_concat, attempt_of_error herror]
  · intro kind larger hlarger
    have hafter : after (kinds ++ [kind]) = larger := by
      rw [after_concat, attempt_of_ok hlarger]
    refine ⟨hafter, fun name ↦ ?_⟩
    obtain ⟨-, -, rfl⟩ := register_eq_ok.mp hlarger
    rw [mem_names, mem_names, has, has, SortedMap.contains, SortedMap.contains,
      SortedMap.get?_insert]
    by_cases hname : name = kind.name <;> simp [hname]
  · intro name hhas
    obtain ⟨hfree, -⟩ := has_after.mp hhas
    obtain ⟨kind, hkind⟩ := has_eq_true.mp hhas
    have hfirst : kinds.find? (·.name = name) = some kind := by
      rwa [get?_after, if_pos (Outline.ofKey?_eq_none.mpr hfree)] at hkind
    have hname : kind.name = name := by simpa using List.find?_some hfirst
    refine ⟨kind, Task.new kind, hfirst, ?_, rfl, ?_⟩
    · rw [instantiate, find_eq_ok.mpr hkind]
      rfl
    · rw [Task.kind_new, hname]
  · intro name hhas
    rw [instantiate, find_eq_error.mpr ⟨hhas, rfl⟩]
    rfl
  · intro others hperm
    constructor
    · constructor
      · rintro ⟨whole, hwhole⟩
        exact ⟨_, registerAll_eq_ok.mpr ⟨(registerAll_eq_ok.mp hwhole).1.perm hperm, rfl⟩⟩
      · rintro ⟨whole, hwhole⟩
        exact ⟨_, registerAll_eq_ok.mpr ⟨(registerAll_eq_ok.mp hwhole).1.perm hperm.symm, rfl⟩⟩
    · intro whole whole' hwhole hwhole'
      obtain ⟨-, rfl⟩ := registerAll_eq_ok.mp hwhole
      obtain ⟨-, rfl⟩ := registerAll_eq_ok.mp hwhole'
      exact names_after_perm hperm

/-- A kind that a control field has the name of, and one whose name is taken, among two others. -/
theorem registry_after_refusing :
    let kinds : List TaskKind := [.inert "echo", .inert "block", .echo, .fail]
    (after kinds).names = ["echo", "fail"] ∧
      (after kinds).instantiate "echo" = .ok (.inert "echo") ∧
      (after kinds).instantiate "block" = .error (.notRegistered "block") ∧
      after (kinds ++ [.echo]) = after kinds ∧
      Registry.ofKinds kinds = .error (.reservedName "block") ∧
      ∃ whole whole', Registry.ofKinds [.echo, .fail] = .ok whole ∧
        Registry.ofKinds [.fail, .echo] = .ok whole' ∧ whole.names = whole'.names := by
  intro kinds
  obtain ⟨-, -, hsame, -, hgives, hgivesNone, -, hfails, -⟩ := registry_after kinds
  obtain ⟨-, -, -, -, -, -, -, -, hperm⟩ := registry_after [.echo, .fail]
  obtain ⟨kind, task, hfirst, htask, rfl, -⟩ := hgives "echo" rfl
  obtain rfl : TaskKind.inert "echo" = kind := Option.some.inj hfirst
  have hregistrable : empty.Registrable [.inert "echo"] :=
    registrable_cons.mpr ⟨_, rfl, registrable_nil _⟩
  obtain ⟨hsucceeds, hnames⟩ := hperm [.fail, .echo] (.swap _ _ _)
  obtain ⟨whole', hwhole'⟩ := hsucceeds.mp ⟨_, rfl⟩
  refine ⟨by decide, htask, hgivesNone "block" rfl, hsame .echo ⟨.duplicate "echo", rfl⟩, ?_,
    _, whole', rfl, hwhole', hnames _ whole' rfl hwhole'⟩
  exact (hfails _).mpr ⟨[.inert "echo"], .inert "block", [.echo, .fail], rfl, hregistrable, rfl⟩

end Playbook
