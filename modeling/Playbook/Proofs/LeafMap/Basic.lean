import Playbook.Composite
import Playbook.Proofs.Leaves
import Playbook.Proofs.Overlay

/-!
# Values with other leaves

The string leaves of a value may be changed while everything else of it is kept. The leaves of the
new value are then the changed ones in the same order. Reordering the entries of hash maps, anywhere
in a value, only reorders its leaves and its shared parts, and it may as well happen after the
change.
-/

namespace Playbook

mutual

/-- The value with other strings; its structure, its keys and its numbers are kept. -/
def Json.mapLeaves (f : String → String) : Json → Json
  | .str text => .str (f text)
  | .arr items => .arr (Json.mapLeavesOfItems f items)
  | .obj fields => .obj (Json.mapLeavesOfFields f fields)
  | other => other

def Json.mapLeavesOfItems (f : String → String) : List Json → List Json
  | [] => []
  | item :: rest => item.mapLeaves f :: Json.mapLeavesOfItems f rest

def Json.mapLeavesOfFields (f : String → String) : List (String × Json) → List (String × Json)
  | [] => []
  | (key, value) :: rest => (key, value.mapLeaves f) :: Json.mapLeavesOfFields f rest

end

def LoopSpec.mapLeaves (f : String → String) : LoopSpec → LoopSpec
  | .var template => .var (f template)
  | .items values => .items (Json.mapLeavesOfItems f values)

def Invocation.mapLeaves (f : String → String) (task : Invocation) : Invocation :=
  { task with config := Json.mapLeavesOfFields f task.config }

/-- The children, the parent and what happens to errors are kept. -/
def Element.mapLeaves (f : String → String) (element : Element) : Element :=
  { element with
    name := element.name.map f
    guards := element.guards.map f
    register := element.register.map f
    environment := element.environment.mapValues f
    loop := element.loop.map (LoopSpec.mapLeaves f)
    task := element.task.map (Invocation.mapLeaves f) }

namespace Composite

mutual

/-- The strings of a value that may be templates, in the order of a walk over it. The entries of
ordered maps and of objects stand in the order of their keys. -/
def leaves : Composite → List String
  | .text template => [template]
  | .scalar _ | .absent => []
  | .present content | .boxed content | .shared _ _ content => content.leaves
  | .seq items => leavesOfItems items
  | .sorted entries | .unordered entries => leavesOfEntries entries
  | .json value => value.leaves
  | .object fields => Json.leavesOfFields fields
  | .loop spec => spec.leaves
  | .invocation _ config => config.leaves
  | .element rest task => { rest with task := none }.leaves ++ task.leaves

def leavesOfItems : List Composite → List String
  | [] => []
  | item :: rest => item.leaves ++ leavesOfItems rest

def leavesOfEntries : List (String × Composite) → List String
  | [] => []
  | (_, value) :: rest => value.leaves ++ leavesOfEntries rest

end

mutual

/-- The shared parts of a value, those inside of others included, as often as they stand in it. -/
def parts : Composite → List Nat
  | .text _ | .scalar _ | .absent | .json _ | .object _ | .loop _ => []
  | .present content | .boxed content => content.parts
  | .seq items => partsOfItems items
  | .sorted entries | .unordered entries => partsOfEntries entries
  | .invocation _ config => config.parts
  | .element _ task => task.parts
  | .shared part _ content => part :: content.parts

def partsOfItems : List Composite → List Nat
  | [] => []
  | item :: rest => item.parts ++ partsOfItems rest

def partsOfEntries : List (String × Composite) → List Nat
  | [] => []
  | (_, value) :: rest => value.parts ++ partsOfEntries rest

end

mutual

/-- The value with other leaves; shared parts are new ones then, since they hold other leaves. -/
def mapLeaves (f : String → String) : Composite → Composite
  | .text template => .text (f template)
  | .scalar value => .scalar value
  | .absent => .absent
  | .present content => .present (content.mapLeaves f)
  | .boxed content => .boxed (content.mapLeaves f)
  | .seq items => .seq (mapLeavesOfItems f items)
  | .sorted entries => .sorted (mapLeavesOfEntries f entries)
  | .unordered entries => .unordered (mapLeavesOfEntries f entries)
  | .json value => .json (value.mapLeaves f)
  | .object fields => .object (Json.mapLeavesOfFields f fields)
  | .loop spec => .loop (spec.mapLeaves f)
  | .invocation kind config => .invocation kind (config.mapLeaves f)
  | .element rest task => .element ({ rest with task := none }.mapLeaves f) (task.mapLeaves f)
  | .shared part _ content => .shared part true (content.mapLeaves f)

def mapLeavesOfItems (f : String → String) : List Composite → List Composite
  | [] => []
  | item :: rest => item.mapLeaves f :: mapLeavesOfItems f rest

def mapLeavesOfEntries (f : String → String) :
    List (String × Composite) → List (String × Composite)
  | [] => []
  | (key, value) :: rest => (key, value.mapLeaves f) :: mapLeavesOfEntries f rest

end

/-- What there is of a value besides its leaves. -/
def bare (value : Composite) : Composite :=
  value.mapLeaves fun _ ↦ ""

end Composite

/-! ## The leaves of such values -/

variable {f g : String → String}

mutual

theorem Json.leaves_mapLeaves : (value : Json) → (value.mapLeaves f).leaves = value.leaves.map f
  | .str _ | .null | .bool _ | .int _ | .float _ => rfl
  | .arr items => leavesOfItems_mapLeaves items
  | .obj fields => leavesOfFields_mapLeaves fields

theorem Json.leavesOfItems_mapLeaves : (items : List Json) →
    Json.leavesOfItems (Json.mapLeavesOfItems f items) = (Json.leavesOfItems items).map f
  | [] => rfl
  | item :: rest => by
    rw [Json.mapLeavesOfItems, Json.leavesOfItems, Json.leavesOfItems, List.map_append,
      Json.leaves_mapLeaves item, Json.leavesOfItems_mapLeaves rest]

theorem Json.leavesOfFields_mapLeaves : (fields : List (String × Json)) →
    Json.leavesOfFields (Json.mapLeavesOfFields f fields) = (Json.leavesOfFields fields).map f
  | [] => rfl
  | (key, value) :: rest => by
    rw [Json.mapLeavesOfFields, Json.leavesOfFields, Json.leavesOfFields, List.map_append,
      Json.leaves_mapLeaves value, Json.leavesOfFields_mapLeaves rest]

end

mutual

theorem Json.mapLeaves_mapLeaves : (value : Json) →
    (value.mapLeaves f).mapLeaves g = value.mapLeaves (g ∘ f)
  | .str _ | .null | .bool _ | .int _ | .float _ => rfl
  | .arr items => congrArg Json.arr (mapLeavesOfItems_mapLeavesOfItems items)
  | .obj fields => congrArg Json.obj (mapLeavesOfFields_mapLeavesOfFields fields)

theorem Json.mapLeavesOfItems_mapLeavesOfItems : (items : List Json) →
    Json.mapLeavesOfItems g (Json.mapLeavesOfItems f items) = Json.mapLeavesOfItems (g ∘ f) items
  | [] => rfl
  | item :: rest => by
    rw [Json.mapLeavesOfItems, Json.mapLeavesOfItems, Json.mapLeavesOfItems,
      Json.mapLeaves_mapLeaves item, Json.mapLeavesOfItems_mapLeavesOfItems rest]

theorem Json.mapLeavesOfFields_mapLeavesOfFields : (fields : List (String × Json)) →
    Json.mapLeavesOfFields g (Json.mapLeavesOfFields f fields) =
      Json.mapLeavesOfFields (g ∘ f) fields
  | [] => rfl
  | (key, value) :: rest => by
    rw [Json.mapLeavesOfFields, Json.mapLeavesOfFields, Json.mapLeavesOfFields,
      Json.mapLeaves_mapLeaves value, Json.mapLeavesOfFields_mapLeavesOfFields rest]

end

theorem LoopSpec.leaves_mapLeaves (spec : LoopSpec) :
    (spec.mapLeaves f).leaves = spec.leaves.map f := by
  cases spec with
  | var template => rfl
  | items values => exact Json.leavesOfItems_mapLeaves values

theorem LoopSpec.mapLeaves_mapLeaves (spec : LoopSpec) :
    (spec.mapLeaves f).mapLeaves g = spec.mapLeaves (g ∘ f) := by
  cases spec with
  | var template => rfl
  | items values => exact congrArg LoopSpec.items (Json.mapLeavesOfItems_mapLeavesOfItems values)

theorem Element.leaves_mapLeaves (element : Element) :
    (element.mapLeaves f).leaves = element.leaves.map f := by
  have hoption (given : Option String) : (given.map f).toList = given.toList.map f := by
    cases given <;> rfl
  have hvariables : (element.environment.mapValues f).entries.map (·.2) =
      (element.environment.entries.map (·.2)).map f := by
    simp [SortedMap.mapValues]
  have hloop : (element.loop.map (LoopSpec.mapLeaves f)).elim [] LoopSpec.leaves =
      (element.loop.elim [] LoopSpec.leaves).map f := by
    cases element.loop with
    | none => rfl
    | some spec => exact spec.leaves_mapLeaves
  have htask : (element.task.map (Invocation.mapLeaves f)).elim [] Invocation.leaves =
      (element.task.elim [] Invocation.leaves).map f := by
    cases element.task with
    | none => rfl
    | some task => exact Json.leavesOfFields_mapLeaves task.config
  simp only [Element.leaves, Element.mapLeaves, List.map_append, hoption, hvariables, hloop, htask]

theorem Element.mapLeaves_mapLeaves (element : Element) :
    (element.mapLeaves f).mapLeaves g = element.mapLeaves (g ∘ f) := by
  have hvariables : (element.environment.mapValues f).mapValues g =
      element.environment.mapValues (g ∘ f) := by
    ext1
    simp [SortedMap.mapValues]
  have hloop : (element.loop.map (LoopSpec.mapLeaves f)).map (LoopSpec.mapLeaves g) =
      element.loop.map (LoopSpec.mapLeaves (g ∘ f)) := by
    cases element.loop with
    | none => rfl
    | some spec => exact congrArg some spec.mapLeaves_mapLeaves
  have htask : (element.task.map (Invocation.mapLeaves f)).map (Invocation.mapLeaves g) =
      element.task.map (Invocation.mapLeaves (g ∘ f)) := by
    cases element.task with
    | none => rfl
    | some task =>
      have hconfig := Json.mapLeavesOfFields_mapLeavesOfFields (f := f) (g := g) task.config
      simp only [Option.map_some, Invocation.mapLeaves, hconfig]
  simp only [Element.mapLeaves, Option.map_map, List.map_map, hvariables, hloop, htask]

namespace Composite

mutual

theorem leaves_mapLeaves : (value : Composite) →
    (value.mapLeaves f).leaves = value.leaves.map f
  | .text _ | .scalar _ | .absent => rfl
  | .present content | .boxed content | .shared _ _ content | .invocation _ content =>
    leaves_mapLeaves content
  | .seq items => leavesOfItems_mapLeaves items
  | .sorted entries | .unordered entries => leavesOfEntries_mapLeaves entries
  | .json value => value.leaves_mapLeaves
  | .object fields => Json.leavesOfFields_mapLeaves fields
  | .loop spec => spec.leaves_mapLeaves
  | .element rest task => by
    rw [mapLeaves, leaves, leaves, List.map_append, ← leaves_mapLeaves task,
      ← Element.leaves_mapLeaves]
    rfl

theorem leavesOfItems_mapLeaves : (items : List Composite) →
    leavesOfItems (mapLeavesOfItems f items) = (leavesOfItems items).map f
  | [] => rfl
  | item :: rest => by
    rw [mapLeavesOfItems, leavesOfItems, leavesOfItems, List.map_append, leaves_mapLeaves item,
      leavesOfItems_mapLeaves rest]

theorem leavesOfEntries_mapLeaves : (entries : List (String × Composite)) →
    leavesOfEntries (mapLeavesOfEntries f entries) = (leavesOfEntries entries).map f
  | [] => rfl
  | (key, value) :: rest => by
    rw [mapLeavesOfEntries, leavesOfEntries, leavesOfEntries, List.map_append,
      leaves_mapLeaves value, leavesOfEntries_mapLeaves rest]

end

mutual

theorem mapLeaves_mapLeaves : (value : Composite) →
    (value.mapLeaves f).mapLeaves g = value.mapLeaves (g ∘ f)
  | .text _ | .scalar _ | .absent => rfl
  | .present content => congrArg present (mapLeaves_mapLeaves content)
  | .boxed content => congrArg boxed (mapLeaves_mapLeaves content)
  | .seq items => congrArg seq (mapLeavesOfItems_mapLeavesOfItems items)
  | .sorted entries => congrArg sorted (mapLeavesOfEntries_mapLeavesOfEntries entries)
  | .unordered entries => congrArg unordered (mapLeavesOfEntries_mapLeavesOfEntries entries)
  | .json value => congrArg json value.mapLeaves_mapLeaves
  | .object fields => congrArg object (Json.mapLeavesOfFields_mapLeavesOfFields fields)
  | .loop spec => congrArg loop spec.mapLeaves_mapLeaves
  | .invocation kind config => congrArg (invocation kind) (mapLeaves_mapLeaves config)
  | .element rest task => by
    rw [mapLeaves, mapLeaves, mapLeaves, mapLeaves_mapLeaves task, ← Element.mapLeaves_mapLeaves]
    rfl
  | .shared part _ content => congrArg (shared part true) (mapLeaves_mapLeaves content)

theorem mapLeavesOfItems_mapLeavesOfItems : (items : List Composite) →
    mapLeavesOfItems g (mapLeavesOfItems f items) = mapLeavesOfItems (g ∘ f) items
  | [] => rfl
  | item :: rest => by
    rw [mapLeavesOfItems, mapLeavesOfItems, mapLeavesOfItems, mapLeaves_mapLeaves item,
      mapLeavesOfItems_mapLeavesOfItems rest]

theorem mapLeavesOfEntries_mapLeavesOfEntries : (entries : List (String × Composite)) →
    mapLeavesOfEntries g (mapLeavesOfEntries f entries) = mapLeavesOfEntries (g ∘ f) entries
  | [] => rfl
  | (key, value) :: rest => by
    rw [mapLeavesOfEntries, mapLeavesOfEntries, mapLeavesOfEntries, mapLeaves_mapLeaves value,
      mapLeavesOfEntries_mapLeavesOfEntries rest]

end

theorem bare_mapLeaves (value : Composite) : (value.mapLeaves f).bare = value.bare :=
  value.mapLeaves_mapLeaves

/-! ## Lists of values -/

theorem leavesOfItems_eq (items : List Composite) : leavesOfItems items = items.flatMap leaves := by
  induction items with
  | nil => rfl
  | cons item rest ih => rw [leavesOfItems, ih, List.flatMap_cons]

theorem leavesOfEntries_eq (entries : List (String × Composite)) :
    leavesOfEntries entries = entries.flatMap (·.2.leaves) := by
  induction entries with
  | nil => rfl
  | cons entry rest ih => rw [leavesOfEntries, ih, List.flatMap_cons]

theorem partsOfItems_eq (items : List Composite) : partsOfItems items = items.flatMap parts := by
  induction items with
  | nil => rfl
  | cons item rest ih => rw [partsOfItems, ih, List.flatMap_cons]

theorem partsOfEntries_eq (entries : List (String × Composite)) :
    partsOfEntries entries = entries.flatMap (·.2.parts) := by
  induction entries with
  | nil => rfl
  | cons entry rest ih => rw [partsOfEntries, ih, List.flatMap_cons]

theorem mapLeavesOfItems_eq (items : List Composite) :
    mapLeavesOfItems f items = items.map (mapLeaves f) := by
  induction items with
  | nil => rfl
  | cons item rest ih => rw [mapLeavesOfItems, ih, List.map_cons]

theorem mapLeavesOfEntries_eq (entries : List (String × Composite)) :
    mapLeavesOfEntries f entries = entries.map fun entry ↦ (entry.1, entry.2.mapLeaves f) := by
  induction entries with
  | nil => rfl
  | cons entry rest ih => rw [mapLeavesOfEntries, ih, List.map_cons]

/-! ## Other orders of hash maps -/

/-- The values differ in nothing but the order in which the entries of hash maps are walked, which
may be inside any other part of them. -/
inductive Reordered : Composite → Composite → Prop where
  | refl (value : Composite) : Reordered value value
  | trans {value between other : Composite} (first : Reordered value between)
      (second : Reordered between other) : Reordered value other
  | walked {entries entries' : List (String × Composite)} (perm : entries.Perm entries') :
      Reordered (.unordered entries) (.unordered entries')
  | present {value other : Composite} (inside : Reordered value other) :
      Reordered (.present value) (.present other)
  | boxed {value other : Composite} (inside : Reordered value other) :
      Reordered (.boxed value) (.boxed other)
  | item {value other : Composite} (before after : List Composite)
      (inside : Reordered value other) :
      Reordered (.seq (before ++ value :: after)) (.seq (before ++ other :: after))
  | sorted {value other : Composite} (before after : List (String × Composite)) (key : String)
      (inside : Reordered value other) :
      Reordered (.sorted (before ++ (key, value) :: after))
        (.sorted (before ++ (key, other) :: after))
  | unordered {value other : Composite} (before after : List (String × Composite)) (key : String)
      (inside : Reordered value other) :
      Reordered (.unordered (before ++ (key, value) :: after))
        (.unordered (before ++ (key, other) :: after))
  | invocation {value other : Composite} (kind : String) (inside : Reordered value other) :
      Reordered (.invocation kind value) (.invocation kind other)
  | element {value other : Composite} (rest : Element) (inside : Reordered value other) :
      Reordered (.element rest value) (.element rest other)
  | shared {value other : Composite} (part : Nat) (fresh : Bool)
      (inside : Reordered value other) :
      Reordered (.shared part fresh value) (.shared part fresh other)

namespace Reordered

variable {value other : Composite}

theorem leaves_perm (h : value.Reordered other) : value.leaves.Perm other.leaves := by
  induction h with
  | refl => exact .refl _
  | trans _ _ ih ih' => exact ih.trans ih'
  | walked perm =>
    rw [leaves, leaves, leavesOfEntries_eq, leavesOfEntries_eq]
    exact perm.flatMap_right _
  | present _ ih | boxed _ ih | invocation _ _ ih | shared _ _ _ ih => exact ih
  | item before after _ ih =>
    simp only [leaves, leavesOfItems_eq, List.flatMap_append, List.flatMap_cons]
    exact (ih.append_right _).append_left _
  | sorted before after key _ ih | unordered before after key _ ih =>
    simp only [leaves, leavesOfEntries_eq, List.flatMap_append, List.flatMap_cons]
    exact (ih.append_right _).append_left _
  | element rest _ ih => exact ih.append_left _

theorem parts_perm (h : value.Reordered other) : value.parts.Perm other.parts := by
  induction h with
  | refl => exact .refl _
  | trans _ _ ih ih' => exact ih.trans ih'
  | walked perm =>
    rw [parts, parts, partsOfEntries_eq, partsOfEntries_eq]
    exact perm.flatMap_right _
  | present _ ih | boxed _ ih | invocation _ _ ih | element _ _ ih => exact ih
  | item before after _ ih =>
    simp only [parts, partsOfItems_eq, List.flatMap_append, List.flatMap_cons]
    exact (ih.append_right _).append_left _
  | sorted before after key _ ih | unordered before after key _ ih =>
    simp only [parts, partsOfEntries_eq, List.flatMap_append, List.flatMap_cons]
    exact (ih.append_right _).append_left _
  | shared part _ _ ih => exact ih.cons part

protected theorem mapLeaves (h : value.Reordered other) :
    (value.mapLeaves f).Reordered (other.mapLeaves f) := by
  induction h with
  | refl => exact .refl _
  | trans _ _ ih ih' => exact ih.trans ih'
  | walked perm =>
    rw [Composite.mapLeaves, Composite.mapLeaves, mapLeavesOfEntries_eq, mapLeavesOfEntries_eq]
    exact .walked (perm.map _)
  | present _ ih => exact ih.present
  | boxed _ ih => exact ih.boxed
  | item before after _ ih =>
    simp only [Composite.mapLeaves, mapLeavesOfItems_eq, List.map_append, List.map_cons]
    exact ih.item _ _
  | sorted before after key _ ih =>
    simp only [Composite.mapLeaves, mapLeavesOfEntries_eq, List.map_append, List.map_cons]
    exact ih.sorted _ _ key
  | unordered before after key _ ih =>
    simp only [Composite.mapLeaves, mapLeavesOfEntries_eq, List.map_append, List.map_cons]
    exact ih.unordered _ _ key
  | invocation kind _ ih => exact ih.invocation kind
  | element rest _ ih => exact ih.element _
  | shared part _ _ ih => exact ih.shared part true

end Reordered

end Composite

end Playbook
