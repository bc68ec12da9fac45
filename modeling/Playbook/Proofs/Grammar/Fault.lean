import Playbook.Proofs.Grammar.Loop
import Playbook.Proofs.Outline.Faults

/-!
# Faults of documents

What is wrong with a document that is refused, said of its nodes alone. A node is read as something,
and this decides which shape and which keys it may have and what its parts are read as. A way leads
from the document to one of its nodes past parts that are sound, and the fault lies in this node:
so it is the first one, in the order in which a reader goes through the document.
-/

namespace Playbook.Grammar

open Yaml (Node)

/-- What a node is read as. -/
inductive Role where
  | elements
  | element
  | text
  | flag
  | guards
  | environment
  | loop
  /-- The items of a loop. -/
  | items
  /-- The configuration of a task. -/
  | config (kind : String)

/-- Scalars stand under no tag, and everything else may. -/
def Fits : Shape → Node → Prop
  | .sequence, node => ∃ items, node.untagged = .seq items
  | .mapping, node => ∃ entries, node.untagged = .map entries
  | .stringKey, node => ∃ text, node.untagged = .str text
  | .boolean, node => ∃ value, node.untagged = .bool value
  | .scalar, node => IsScalar node

namespace Role

/-- What the value of a control field is read as. -/
def ofField : ControlField → Role
  | .name | .register => text
  | .guards => guards
  | .environment => environment
  | .loop => loop
  | .ignoreErrors => flag
  | .block => elements

def shape : Role → Shape
  | elements | items => .sequence
  | element | environment | loop | config _ => .mapping
  | text | guards => .scalar
  | flag => .boolean

/-- Guards may also be an untagged sequence. -/
inductive Admits : Role → Node → Prop where
  | fits {role : Role} {node : Node} (fits : Fits role.shape node) : Admits role node
  | conditions (nodes : List Node) : Admits guards (.seq nodes)

/-- The error about a node that cannot be read as what it should be. -/
def refusal (location : Location) (node : Node) : Role → ParseError
  | config kind =>
    .invalidField location kind ("Task config must be a mapping, found " ++ node.kind.name)
  | role => .unexpectedNode location role.shape node.kind

/-- These entries at the front of a mapping are sound. -/
def Accepts (registry : Registry) : Role → List (Node × Node) → Prop
  | element, entries => (∀ entry ∈ entries, IsField registry entry) ∧
      entries.Pairwise fun first second ↦ ¬ (IsTask registry first ∧ IsTask registry second)
  | environment, entries => ∀ entry ∈ entries, IsVariable entry
  | loop, entries => ∀ entry ∈ entries, IsLoopEntry entry
  | _, _ => False

/-- Only mappings have entries. -/
theorem shape_of_accepts {registry : Registry} {role : Role} {entries : List (Node × Node)}
    (h : role.Accepts registry entries) : role.shape = .mapping := by
  cases role with
  | element | environment | loop => rfl
  | elements | text | flag | guards | items | config => exact h.elim

/-- Keys that an element or a loop may have. The variables of an environment have any name. -/
def Knows (registry : Registry) : Role → String → Prop
  | element, key => (∃ field : ControlField, field.text = key) ∨ registry.has key = true
  | loop, key => key = "var" ∨ key = "items"
  | _, _ => True

/-- What the value under a key is read as, after the entries before. -/
inductive Opens (registry : Registry) (before : List (Node × Node)) :
    Role → String → Role → Prop where
  | field (field : ControlField) : Opens registry before element field.text (ofField field)
  | task {kind : String} (known : IsKind registry kind)
      (first : ∀ entry ∈ before, ¬ IsTask registry entry) :
      Opens registry before element kind (config kind)
  | name (name : String) : Opens registry before environment name text
  | template : Opens registry before loop "var" text
  | items : Opens registry before loop "items" items

end Role

/-! ## Ways -/

/-- One step from a node to a part of it, where all parts before are sound. -/
inductive Child (registry : Registry) : Role → Node → Location.Step → Role → Node → Prop where
  | element {node item : Node} {before after : List Node}
      (sequence : node.untagged = .seq (before ++ item :: after))
      (earlier : ∀ found ∈ before, IsElement registry found) :
      Child registry .elements node (.index before.length) .element item
  | condition {node condition : Node} {before after : List Node}
      (sequence : node = .seq (before ++ condition :: after))
      (earlier : ∀ found ∈ before, IsScalar found) :
      Child registry .guards node (.index before.length) .text condition
  | value {role part : Role} {node : Node} {key : String} {entry : Node × Node}
      {before after : List (Node × Node)}
      (mapping : node.untagged = .map (before ++ entry :: after))
      (earlier : role.Accepts registry before) (names : Names key entry)
      (opens : Role.Opens registry before role key part) :
      Child registry role node (.key key) part entry.2

/-- The steps from a node down to another one, where all parts passed by are sound. -/
inductive Way (registry : Registry) : Role → Node → Location → Role → Node → Prop where
  | here (role : Role) (node : Node) : Way registry role node [] role node
  | step {role part target : Role} {node inner goal : Node} {step : Location.Step}
      {way : Location} (child : Child registry role node step part inner)
      (rest : Way registry part inner way target goal) :
      Way registry role node (step :: way) target goal

/-! ## Faults -/

/-- The rules about the content of an element that entries break. -/
inductive BreaksContent (registry : Registry) (entries : List (Node × Node)) :
    Element.Fault → Prop where
  | blockWithRegister (filled : LastFilled "block" entries)
      (register : ∃ entry ∈ entries, Names "register" entry) :
      BreaksContent registry entries .blockWithRegister
  | blockWithTask (filled : LastFilled "block" entries)
      (register : ∀ entry ∈ entries, ¬ Names "register" entry)
      (task : ∃ entry ∈ entries, IsTask registry entry) :
      BreaksContent registry entries .blockWithTask
  | noContent (unfilled : ¬ LastFilled "block" entries)
      (task : ∀ entry ∈ entries, ¬ IsTask registry entry) :
      BreaksContent registry entries .noContent

/-- The rules about the source of the items that the entries of a loop break. -/
inductive BreaksSource (entries : List (Node × Node)) : LoopSpec.Fault → Prop where
  | both (var : ∃ entry ∈ entries, Names "var" entry) (filled : LastFilled "items" entries) :
      BreaksSource entries .both
  | neither (var : ∀ entry ∈ entries, ¬ Names "var" entry)
      (unfilled : ¬ LastFilled "items" entries) : BreaksSource entries .neither

/-- What is wrong with an entry that stands behind the given ones, and the error that says so. -/
inductive EntryFault (registry : Registry) (location : Location) (before : List (Node × Node))
    (entry : Node × Node) : Role → ParseError → Prop where
  | key {role : Role} (misfit : ¬ Fits .stringKey entry.1) :
      EntryFault registry location before entry role
        (.unexpectedNode location .stringKey entry.1.kind)
  | unknown {role : Role} {key : String} (names : Names key entry)
      (unknown : ¬ role.Knows registry key) :
      EntryFault registry location before entry role (.unknownField location key)
  | second {existing task : String} {first : Node × Node} (mem : first ∈ before)
      (names : Names existing first) (known : IsKind registry existing)
      (names' : Names task entry) (known' : IsKind registry task) :
      EntryFault registry location before entry .element (.duplicateTask location existing task)
  | items {nodes : List Node} {fault : Yaml.KeyFault} (names : Names "items" entry)
      (sequence : entry.2.untagged = .seq nodes) (strange : Node.itemsToJson nodes = .error fault) :
      EntryFault registry location before entry .loop
        (.invalidField location "items" fault.message)

/-- What is wrong with sound entries when they are taken together. -/
inductive RuleFault (registry : Registry) (location : Location) (entries : List (Node × Node)) :
    Role → ParseError → Prop where
  | content {fault : Element.Fault} (breaks : BreaksContent registry entries fault) :
      RuleFault registry location entries .element (.invalidElement location fault.message)
  | source {fault : LoopSpec.Fault} (breaks : BreaksSource entries fault) :
      RuleFault registry location entries .loop (.invalidElement location fault.message)

/-- What is wrong with a node itself, and the error that says so. Up to the entry that is at fault
everything in the node is sound. -/
inductive Fault (registry : Registry) (location : Location) : Role → Node → ParseError → Prop where
  | shape {role : Role} {node : Node} (misfit : ¬ role.Admits node) :
      Fault registry location role node (role.refusal location node)
  | entry {role : Role} {node : Node} {before after : List (Node × Node)} {entry : Node × Node}
      {error : ParseError} (mapping : node.untagged = .map (before ++ entry :: after))
      (earlier : role.Accepts registry before)
      (fault : EntryFault registry location before entry role error) :
      Fault registry location role node error
  | rule {role : Role} {node : Node} {entries : List (Node × Node)} {error : ParseError}
      (mapping : node.untagged = .map entries) (sound : role.Accepts registry entries)
      (fault : RuleFault registry location entries role error) :
      Fault registry location role node error
  | config {kind : String} {node : Node} {fault : Yaml.KeyFault} (mapping : Fits .mapping node)
      (strange : node.toJson = .error fault) :
      Fault registry location (.config kind) node (.invalidField location kind fault.message)

/-- A way from the node leads to a fault with the given error. -/
def Finds (registry : Registry) (role : Role) (node : Node) (location : Location)
    (error : ParseError) : Prop :=
  ∃ way target goal, Way registry role node way target goal ∧
    Fault registry (location ++ way) target goal error

variable {registry : Registry} {role : Role} {node : Node} {location : Location}
  {error : ParseError}

/-- An error names the node that is at fault. -/
theorem Fault.location? (h : Fault registry location role node error) :
    error.location? = some location := by
  cases h with
  | shape misfit => cases role <;> rfl
  | entry _ _ fault => cases fault <;> rfl
  | rule _ _ fault => cases fault <;> rfl
  | config _ _ => rfl

/-- The message begins with the way to the node that the error names. -/
theorem message_of_location? (h : error.location? = some location) :
    ∃ said, error.message = location.text ++ said := by
  cases error with
  | io path cause => cases h
  | yaml cause => cases h
  | _ =>
    obtain rfl := Option.some.inj h
    simp only [ParseError.message, String.append_assoc]
    exact ⟨_, rfl⟩

/-- The fault lies in the node itself or on the way through one of its parts. -/
theorem finds_iff : Finds registry role node location error ↔
    Fault registry location role node error ∨ ∃ step part inner,
      Child registry role node step part inner ∧
        Finds registry part inner (location ++ [step]) error := by
  constructor
  · rintro ⟨way, target, goal, hway, hfault⟩
    cases hway with
    | here =>
      rw [List.append_nil] at hfault
      exact .inl hfault
    | step child rest =>
      rw [List.append_cons] at hfault
      exact .inr ⟨_, _, _, child, _, _, _, rest, hfault⟩
  · rintro (hfault | ⟨step, part, inner, hchild, way, target, goal, hway, hfault⟩)
    · refine ⟨[], role, node, .here role node, ?_⟩
      rwa [List.append_nil]
    · refine ⟨step :: way, target, goal, .step hchild hway, ?_⟩
      rwa [List.append_cons]

/-- A node that has not the shape of what it is read as is at fault itself. Only guards may have
another one. -/
theorem finds_misfit_iff (role : Role) (hrole : role ≠ .guards) (hmisfit : ¬ Fits role.shape node) :
    Finds registry role node location error ↔ error = role.refusal location node := by
  have hnone {entries some : List (Node × Node)} (mapping : node.untagged = .map entries)
      (sound : role.Accepts registry some) : False := by
    rw [Role.shape_of_accepts sound] at hmisfit
    exact hmisfit ⟨entries, mapping⟩
  rw [finds_iff]
  constructor
  · rintro (hfault | ⟨step, part, inner, hchild, -⟩)
    · cases hfault with
      | shape => rfl
      | entry mapping earlier => exact (hnone mapping earlier).elim
      | rule mapping sound => exact (hnone mapping sound).elim
      | config mapping => exact absurd mapping hmisfit
    · cases hchild with
      | element sequence => exact absurd ⟨_, sequence⟩ hmisfit
      | condition => exact absurd rfl hrole
      | value mapping earlier => exact (hnone mapping earlier).elim
  · rintro rfl
    refine .inl (.shape fun hadmits ↦ ?_)
    cases hadmits with
    | fits fits => exact hmisfit fits
    | conditions => exact hrole rfl

/-- Texts, flags and the items of loops have no fault but their shape. -/
theorem finds_shape_iff (hrole : role = .text ∨ role = .flag ∨ role = .items) :
    Finds registry role node location error ↔
      ¬ Fits role.shape node ∧ error = role.refusal location node := by
  by_cases hfits : Fits role.shape node
  · refine iff_of_false (fun h ↦ ?_) (fun h ↦ h.1 hfits)
    rcases finds_iff.mp h with hfault | ⟨step, part, inner, hchild, -⟩
    · rcases hrole with rfl | rfl | rfl <;> cases hfault with
      | shape misfit => exact misfit (.fits hfits)
      | entry _ earlier => exact earlier.elim
      | rule _ sound => exact sound.elim
    · rcases hrole with rfl | rfl | rfl <;> cases hchild with
      | value _ earlier => exact earlier.elim
  · have hguards : role ≠ .guards := by
      rintro rfl
      simp at hrole
    rw [finds_misfit_iff role hguards hfits, and_iff_right hfits]

/-- There is a fault in an entry behind the given ones, or on the way through its value. -/
def EntryFails (registry : Registry) (location : Location) (role : Role)
    (before : List (Node × Node)) (entry : Node × Node) (error : ParseError) : Prop :=
  EntryFault registry location before entry role error ∨ ∃ key part, Names key entry ∧
    Role.Opens registry before role key part ∧
    Finds registry part entry.2 (location.field key) error

/-- In a mapping the fault lies in the first entry that is not sound, or in all of them. -/
theorem finds_entries_iff {entries : List (Node × Node)} (mapping : node.untagged = .map entries)
    (hrole : role = .element ∨ role = .environment ∨ role = .loop) :
    Finds registry role node location error ↔
      (∃ before entry after, entries = before ++ entry :: after ∧ role.Accepts registry before ∧
        EntryFails registry location role before entry error) ∨
      role.Accepts registry entries ∧ RuleFault registry location entries role error := by
  rw [finds_iff]
  constructor
  · rintro (hfault | ⟨step, part, inner, hchild, hfinds⟩)
    · cases hfault with
      | shape misfit =>
        have hshape : role.shape = .mapping := by rcases hrole with rfl | rfl | rfl <;> rfl
        exact absurd (.fits (hshape ▸ ⟨entries, mapping⟩)) misfit
      | entry mapping' earlier fault =>
        obtain rfl := Node.map.inj (mapping.symm.trans mapping')
        exact .inl ⟨_, _, _, rfl, earlier, .inl fault⟩
      | rule mapping' sound fault =>
        obtain rfl := Node.map.inj (mapping.symm.trans mapping')
        exact .inr ⟨sound, fault⟩
      | config => simp at hrole
    · cases hchild with
      | element => simp at hrole
      | condition => simp at hrole
      | value mapping' earlier names opens =>
        obtain rfl := Node.map.inj (mapping.symm.trans mapping')
        exact .inl ⟨_, _, _, rfl, earlier, .inr ⟨_, _, names, opens, hfinds⟩⟩
  · rintro (⟨before, entry, after, rfl, hbefore, hentry⟩ | ⟨hsound, hfault⟩)
    · rcases hentry with hfault | ⟨key, part, hnames, hopens, hfinds⟩
      · exact .inl (.entry mapping hbefore hfault)
      · exact .inr ⟨_, _, _, .value mapping hbefore hnames hopens, hfinds⟩
    · exact .inl (.rule mapping hsound hfault)

end Playbook.Grammar
