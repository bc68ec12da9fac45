import Playbook.Proofs.Grammar.Basic
import Playbook.Proofs.Outline.Reading

/-!
# Values in the grammar

The readers of single values succeed exactly on the nodes that the grammar allows.
-/

namespace Playbook.Grammar

open Yaml (Node)
open Document
open Outline (map_eq_ok)

/-! ## Looking through tags -/

theorem string?_eq_some {node : Node} {text : String} :
    node.string? = some text ↔ node.untagged = .str text := by
  unfold Node.string?
  cases node.untagged <;> simp

theorem bool?_eq_some {node : Node} {value : Bool} :
    node.bool? = some value ↔ node.untagged = .bool value := by
  unfold Node.bool?
  cases node.untagged <;> simp

theorem seq?_eq_some {node : Node} {items : List Node} :
    node.seq? = some items ↔ node.untagged = .seq items := by
  unfold Node.seq?
  cases node.untagged <;> simp

theorem map?_eq_some {node : Node} {entries : List (Node × Node)} :
    node.map? = some entries ↔ node.untagged = .map entries := by
  unfold Node.map?
  cases node.untagged <;> simp

theorem exists_map_eq_ok {ε α β : Type} {x : Except ε α} {f : α → β} :
    (∃ b, x.map f = .ok b) ↔ ∃ a, x = .ok a := by
  cases x <;> simp [Except.map]

/-- A key has one text. -/
theorem Names.text_eq {first second : String} {entry : Node × Node} (h : Names first entry)
    (h' : Names second entry) : first = second :=
  Node.str.inj (h.symm.trans h')

theorem keyText_ok_iff {location : Location} {key value : Node} {text : String} :
    keyText location key = .ok text ↔ Names text (key, value) := by
  rw [Outline.keyText_eq_ok, string?_eq_some]
  rfl

theorem not_names_of_keyText {location : Location} {key value : Node} {error : ParseError}
    (h : keyText location key = .error error) (text : String) : ¬ Names text (key, value) := by
  intro hnames
  cases h.symm.trans (keyText_ok_iff.mpr hnames)

/-! ## Scalars, guards, variables and flags -/

theorem scalarText_ok_iff (location : Location) (node : Node) :
    (∃ text, scalarText location node = .ok text) ↔ IsScalar node := by
  constructor
  · rintro ⟨text, h⟩
    cases node
    case str text => exact .str text
    case bool value => exact .bool value
    case int value => exact .int value
    case float value => exact .float value
    all_goals exact nomatch h
  · intro h
    cases h <;> exact ⟨_, rfl⟩

theorem parseConditions_ok_iff (location : Location) (position : Nat) (nodes : List Node) :
    (∃ guards, parseConditions location position nodes = .ok guards) ↔
      ∀ node ∈ nodes, IsScalar node := by
  induction nodes generalizing position with
  | nil => simp [parseConditions]
  | cons node rest ih =>
    rw [List.forall_mem_cons, ← scalarText_ok_iff (location.item position) node,
      ← ih (position + 1), parseConditions]
    cases scalarText (location.item position) node with
    | error error => simp
    | ok condition => simp [exists_map_eq_ok]

theorem parseGuards_ok_iff (location : Location) (node : Node) :
    (∃ guards, parseGuards location node = .ok guards) ↔ IsGuards node := by
  cases node
  case seq conditions =>
    rw [parseGuards, parseConditions_ok_iff]
    constructor
    · exact .many
    · intro h
      cases h with
      | one scalar => cases scalar
      | many scalars => exact scalars
  all_goals
    unfold parseGuards
    rw [exists_map_eq_ok, scalarText_ok_iff]
    constructor
    · exact .one
    · intro h
      cases h with
      | one scalar => exact scalar

theorem parseVariables_ok_iff (location : Location) (environment : Environment)
    (entries : List (Node × Node)) :
    (∃ after, parseVariables location environment entries = .ok after) ↔
      ∀ entry ∈ entries, IsVariable entry := by
  induction entries generalizing environment with
  | nil => simp [parseVariables]
  | cons entry rest ih =>
    obtain ⟨key, value⟩ := entry
    rw [List.forall_mem_cons, parseVariables]
    cases hkey : keyText location key with
    | error error =>
      have hnone : ¬ IsVariable (key, value) := fun ⟨names, _⟩ ↦
        not_names_of_keyText hkey _ names
      simp [hnone]
    | ok text =>
      have hnames : Names text (key, value) := keyText_ok_iff.mp hkey
      have hvariable : IsVariable (key, value) ↔ IsScalar value :=
        ⟨fun ⟨_, scalar⟩ ↦ scalar, fun scalar ↦ ⟨hnames, scalar⟩⟩
      rw [hvariable, ← scalarText_ok_iff (location.field text) value]
      dsimp only
      cases scalarText (location.field text) value with
      | error error => simp
      | ok read => rw [ih, and_iff_right ⟨read, rfl⟩]

theorem parseEnvironment_ok_iff (location : Location) (node : Node) :
    (∃ environment, parseEnvironment location node = .ok environment) ↔
      ∃ entries, node.untagged = .map entries ∧ ∀ entry ∈ entries, IsVariable entry := by
  simp only [← map?_eq_some]
  unfold parseEnvironment
  cases node.map? with
  | none => simp
  | some entries => simp [parseVariables_ok_iff]

theorem parseIgnoreErrors_ok_iff (location : Location) (node : Node) :
    (∃ value, parseIgnoreErrors location node = .ok value) ↔
      ∃ value, node.untagged = .bool value := by
  simp only [← bool?_eq_some]
  unfold parseIgnoreErrors
  cases node.bool? <;> simp

/-! ## JSON values -/

theorem nodeKeyText_ok_iff (key : Node) : (∃ text, key.keyText = .ok text) ↔ IsJsonKey key := by
  constructor
  · rintro ⟨text, h⟩
    cases key
    case str text => exact .str text
    case bool value => exact .bool value
    case int value => exact .int value
    case float value =>
      rw [Node.keyText] at h
      split at h
      · next finite => exact .float finite
      · cases h
    all_goals exact nomatch h
  · intro h
    cases h with
    | float finite => exact ⟨_, if_pos finite⟩
    | _ => exact ⟨_, rfl⟩

mutual

theorem toJson_ok_iff : (node : Node) → ((∃ value, node.toJson = .ok value) ↔ IsJson node)
  | .null => ⟨fun _ ↦ .null, fun _ ↦ ⟨_, rfl⟩⟩
  | .bool value => ⟨fun _ ↦ .scalar (.bool value), fun _ ↦ ⟨_, rfl⟩⟩
  | .int value => ⟨fun _ ↦ .scalar (.int value), fun _ ↦ ⟨_, rfl⟩⟩
  | .float value => ⟨fun _ ↦ .scalar (.float value), fun _ ↦ ⟨_, rfl⟩⟩
  | .str text => ⟨fun _ ↦ .scalar (.str text), fun _ ↦ ⟨_, rfl⟩⟩
  | .seq items => by
    rw [Node.toJson, exists_map_eq_ok, itemsToJson_ok_iff]
    constructor
    · exact .seq
    · intro h
      cases h with
      | scalar scalar => cases scalar
      | seq values => exact values
  | .map entries => by
    rw [Node.toJson, exists_map_eq_ok, entriesToJson_ok_iff]
    constructor
    · rintro ⟨keys, values⟩
      exact .map keys values
    · intro h
      cases h with
      | scalar scalar => cases scalar
      | map keys values => exact ⟨keys, values⟩
  | .tagged tag content => by
    rw [Node.toJson, exists_map_eq_ok, toJson_ok_iff]
    constructor
    · exact .tagged
    · intro h
      cases h with
      | scalar scalar => cases scalar
      | tagged value => exact value

theorem itemsToJson_ok_iff : (items : List Node) →
    ((∃ values, Node.itemsToJson items = .ok values) ↔ ∀ item ∈ items, IsJson item)
  | [] => by simp [Node.itemsToJson]
  | item :: rest => by
    rw [List.forall_mem_cons, ← toJson_ok_iff item, ← itemsToJson_ok_iff rest, Node.itemsToJson]
    cases item.toJson with
    | error fault => simp
    | ok value => simp [exists_map_eq_ok]

theorem entriesToJson_ok_iff : (entries : List (Node × Node)) →
    ((∃ fields, Node.entriesToJson entries = .ok fields) ↔
      (∀ entry ∈ entries, IsJsonKey entry.1) ∧ ∀ entry ∈ entries, IsJson entry.2)
  | [] => by simp [Node.entriesToJson]
  | (key, value) :: rest => by
    rw [List.forall_mem_cons, List.forall_mem_cons, ← nodeKeyText_ok_iff, ← toJson_ok_iff value,
      and_and_and_comm, ← entriesToJson_ok_iff rest, Node.entriesToJson]
    cases key.keyText with
    | error fault => simp
    | ok text =>
      cases value.toJson with
      | error fault => simp
      | ok value => simp [exists_map_eq_ok]

end

theorem length_itemsToJson {items : List Node} {values : List Json}
    (h : Node.itemsToJson items = .ok values) : values.length = items.length := by
  induction items generalizing values with
  | nil =>
    cases h
    rfl
  | cons item rest ih =>
    rw [Node.itemsToJson] at h
    split at h
    · cases h
    · obtain ⟨others, hothers, rfl⟩ := map_eq_ok.mp h
      rw [List.length_cons, List.length_cons, ih hothers]

/-- A node is a JSON value as it is without its tags. -/
theorem isJson_untagged : (node : Node) → (IsJson node.untagged ↔ IsJson node)
  | .tagged tag content => by
    rw [Node.untagged, isJson_untagged content]
    constructor
    · exact .tagged
    · intro h
      cases h with
      | scalar scalar => cases scalar
      | tagged value => exact value
  | .null | .bool _ | .int _ | .float _ | .str _ | .seq _ | .map _ => Iff.rfl

/-- The JSON value of a mapping under tags is an object. -/
theorem toJson_obj {node : Node} {entries : List (Node × Node)} {value : Json}
    (hnode : node.untagged = .map entries) (h : node.toJson = .ok value) :
    ∃ fields, value = .obj fields := by
  cases node
  case map | tagged =>
    rw [Node.toJson] at h
    obtain ⟨inner, _, rfl⟩ := map_eq_ok.mp h
    exact ⟨_, rfl⟩
  all_goals exact nomatch hnode

theorem parseTask_ok_iff (location : Location) (kind : String) (node : Node) :
    (∃ task, parseTask location kind node = .ok task) ↔
      ∃ config, node.untagged = .map config ∧ IsJson (.map config) := by
  unfold parseTask
  cases hmap : node.map? with
  | none =>
    simp [← map?_eq_some, hmap]
  | some config =>
    have hconfig := map?_eq_some.mp hmap
    have hjson : (∃ config, node.untagged = .map config ∧ IsJson (.map config)) ↔
        ∃ value, node.toJson = .ok value := by
      rw [toJson_ok_iff, ← isJson_untagged, hconfig]
      simp
    rw [hjson]
    cases hvalue : node.toJson with
    | error fault => simp
    | ok value =>
      obtain ⟨fields, rfl⟩ := toJson_obj hconfig hvalue
      simp

end Playbook.Grammar
