import Playbook.Proofs.Rewriting

/-!
# Texts in documents

An element has texts in four places: its name, its register, its variables and the template of its
loop. Two values that count as the same text can stand there for each other: wherever the element
is, the document reads into the same tree, or is refused for the same reason.
-/

namespace Playbook

open Yaml (Node Kind)
open Grammar (Names string?_eq_some)

/-- The entries of two elements differ in the value at the place of one text: a name, a register, a
variable or the template of a loop. -/
inductive Retexted (value value' : Node) : List (Node × Node) → List (Node × Node) → Prop where
  | field {key : Node} {field : ControlField} (front back : List (Node × Node))
      (text : field = .name ∨ field = .register) (names : Names field.text (key, value)) :
      Retexted value value' (front ++ (key, value) :: back) (front ++ (key, value') :: back)
  | environment {key name node node' : Node} {first last : List (Node × Node)}
      (front back : List (Node × Node)) (names : Names ControlField.environment.text (key, node))
      (mapping : node.untagged = .map (first ++ (name, value) :: last))
      (mapping' : node'.untagged = .map (first ++ (name, value') :: last)) :
      Retexted value value' (front ++ (key, node) :: back) (front ++ (key, node') :: back)
  | loop {key name node node' : Node} {first last : List (Node × Node)}
      (front back : List (Node × Node)) (names : Names ControlField.loop.text (key, node))
      (mapping : node.untagged = .map (first ++ (name, value) :: last))
      (mapping' : node'.untagged = .map (first ++ (name, value') :: last))
      (var : Names "var" (name, value)) :
      Retexted value value' (front ++ (key, node) :: back) (front ++ (key, node') :: back)

/-- Two elements that differ in the value at the place of one text. -/
inductive RetextedElement (value value' : Node) : List Node → List Node → Prop where
  | intro {node node' : Node} {entries entries' : List (Node × Node)}
      (mapping : node.untagged = .map entries) (mapping' : node'.untagged = .map entries')
      (entries : Retexted value value' entries entries') :
      RetextedElement value value' [node] [node']

/-! ## Values -/

namespace Document

variable {value value' : Node}
  (hvalue : ∀ location, scalarText location value = scalarText location value')

include hvalue

theorem parseVariables_retexted (location : Location) (environment : Environment) (name : Node)
    (first last : List (Node × Node)) :
    parseVariables location environment (first ++ (name, value) :: last) =
      parseVariables location environment (first ++ (name, value') :: last) := by
  induction first generalizing environment with
  | nil => simp only [List.nil_append, parseVariables, hvalue]
  | cons entry rest ih => simp only [List.cons_append, parseVariables, ih]

theorem parseLoopParts_retexted (location : Location) (var : Option String)
    (items : Option (List Json)) {name : Node} (hname : Names "var" (name, value))
    (first last : List (Node × Node)) :
    parseLoopParts location var items (first ++ (name, value) :: last) =
      parseLoopParts location var items (first ++ (name, value') :: last) := by
  induction first generalizing var items with
  | nil =>
    have hkey : keyText location name = .ok "var" :=
      Outline.keyText_eq_ok.mpr (string?_eq_some.mpr hname)
    simp only [List.nil_append, parseLoopParts, hkey, if_true, hvalue]
  | cons entry rest ih => simp only [List.cons_append, parseLoopParts, ih]

theorem parseEnvironment_retexted (location : Location) {node node' name : Node}
    {first last : List (Node × Node)} (h : node.untagged = .map (first ++ (name, value) :: last))
    (h' : node'.untagged = .map (first ++ (name, value') :: last)) :
    parseEnvironment location node = parseEnvironment location node' := by
  rw [parseEnvironment, parseEnvironment, Grammar.map?_eq_some.mpr h, Grammar.map?_eq_some.mpr h']
  exact parseVariables_retexted hvalue location ∅ name first last

theorem parseLoop_retexted (location : Location) {node node' name : Node}
    {first last : List (Node × Node)} (h : node.untagged = .map (first ++ (name, value) :: last))
    (h' : node'.untagged = .map (first ++ (name, value') :: last))
    (hname : Names "var" (name, value)) :
    parseLoop location node = parseLoop location node' := by
  rw [parseLoop, parseLoop, Grammar.map?_eq_some.mpr h, Grammar.map?_eq_some.mpr h']
  dsimp only
  rw [parseLoopParts_retexted hvalue location none none hname]

end Document

/-! ## Elements -/

namespace Outline

variable {registry : Registry} {value value' : Node}

theorem readEntry_field {field : ControlField} (hother : field ≠ .block) {key value : Node}
    (hnames : Names field.text (key, value)) (location : Location) (outline : Outline) :
    readEntry registry location (key, value) outline =
      (readField (location.field field.text) field value outline.heading).map
        outline.withHeading := by
  have hkey : Document.keyText location key = .ok field.text :=
    keyText_eq_ok.mpr (string?_eq_some.mpr hnames)
  have hfield : ControlField.ofKey? field.text = some field := ofKey?_eq_some.mpr rfl
  rw [readEntry, hkey]
  dsimp only
  rw [hfield]
  cases field
  case block => exact absurd rfl hother
  all_goals rfl

theorem readEntry_items {key value : Node} (hnames : Names "block" (key, value)) {items : List Node}
    (hitems : value.untagged = .seq items) (location : Location) (outline : Outline) :
    readEntry registry location (key, value) outline =
      (readItems registry (location.field "block") 0 items).map outline.withBlock := by
  have hkey : Document.keyText location key = .ok "block" :=
    keyText_eq_ok.mpr (string?_eq_some.mpr hnames)
  have hfield : ControlField.ofKey? "block" = some .block := rfl
  rw [readEntry, hkey]
  dsimp only
  rw [hfield]
  dsimp only
  rw [readBlock_untagged value hitems]

theorem readEntries_congr {entry entry' : Node × Node} {location : Location}
    (hentry : ∀ outline, readEntry registry location entry outline =
      readEntry registry location entry' outline)
    (front back : List (Node × Node)) (outline : Outline) :
    readEntries registry location (front ++ entry :: back) outline =
      readEntries registry location (front ++ entry' :: back) outline := by
  induction front generalizing outline with
  | nil => simp only [List.nil_append, readEntries, hentry]
  | cons first rest ih => simp only [List.cons_append, readEntries, ih]

theorem readEntries_retexted
    (hvalue : ∀ location, Document.scalarText location value = Document.scalarText location value')
    {entries entries' : List (Node × Node)} (h : Retexted value value' entries entries')
    (location : Location) (outline : Outline) :
    readEntries registry location entries outline =
      readEntries registry location entries' outline := by
  cases h with
  | @field key field front back text names =>
    have names' : Names field.text (key, value') := names
    refine readEntries_congr (fun outline ↦ ?_) front back outline
    cases text with
    | inl hname =>
      subst hname
      rw [readEntry_field (by decide) names, readEntry_field (by decide) names', readField, readField,
        hvalue]
    | inr hregister =>
      subst hregister
      rw [readEntry_field (by decide) names, readEntry_field (by decide) names', readField, readField,
        hvalue]
  | @environment key name node node' first last front back names mapping mapping' =>
    have names' : Names ControlField.environment.text (key, node') := names
    refine readEntries_congr (fun outline ↦ ?_) front back outline
    rw [readEntry_field (by decide) names, readEntry_field (by decide) names', readField, readField,
      Document.parseEnvironment_retexted hvalue _ mapping mapping']
  | @loop key name node node' first last front back names mapping mapping' var =>
    have names' : Names ControlField.loop.text (key, node') := names
    refine readEntries_congr (fun outline ↦ ?_) front back outline
    rw [readEntry_field (by decide) names, readEntry_field (by decide) names', readField, readField,
      Document.parseLoop_retexted hvalue _ mapping mapping' var]

/-- A mapping reads as an element without its tags. -/
theorem read_eq_read_map {entries : List (Node × Node)} {location : Location} {found : Kind} :
    (node : Node) → node.untagged = .map entries →
      read registry location found node = read registry location .mapping (.map entries)
  | .map given, h => by
    obtain rfl := Node.map.inj h
    rw [read, read]
  | .tagged _ content, h => by
    rw [read]
    exact read_eq_read_map content h
  | .null, h | .bool _, h | .int _, h | .float _, h | .str _, h | .seq _, h => by cases h

theorem readItems_congr {node node' : Node}
    (hnode : ∀ location, read registry location node.kind node =
      read registry location node'.kind node')
    (location : Location) (position : Nat) (before after : List Node) :
    readItems registry location position (before ++ [node] ++ after) =
      readItems registry location position (before ++ [node'] ++ after) := by
  induction before generalizing position with
  | nil => simp only [List.nil_append, List.singleton_append, readItems, hnode]
  | cons first rest ih => simp only [List.cons_append, readItems, ih]

/-- Elements with the same text in another form read alike wherever they are. -/
theorem readItems_retexted
    (hvalue : ∀ location, Document.scalarText location value = Document.scalarText location value')
    {items items' : List Node} (h : Rewrites (RetextedElement value value') items items')
    (location : Location) (position : Nat) :
    readItems registry location position items = readItems registry location position items' := by
  induction h generalizing location position with
  | here before after exchange =>
    obtain ⟨mapping, mapping', entries⟩ := exchange
    refine readItems_congr (fun location ↦ ?_) location position before after
    rw [read_eq_read_map _ mapping, read_eq_read_map _ mapping', read, read,
      readEntries_retexted hvalue entries]
  | @inside node node' key given given' items items' before after front back mapping mapping' names
      block block' inside ih =>
    refine readItems_congr (fun location ↦ ?_) location position before after
    have names' : Names "block" (key, given') := names
    have hentry (outline : Outline) : readEntry registry location (key, given) outline =
        readEntry registry location (key, given') outline := by
      rw [readEntry_items names block, readEntry_items names' block', ih]
    rw [read_eq_read_map _ mapping, read_eq_read_map _ mapping', read, read,
      readEntries_congr hentry]

end Outline

/-- A document reads as one that has the same text in another form. -/
theorem Document.ofNode_retexted {registry : Registry} {value value' : Node}
    (hvalue : value.scalar? = value'.scalar?) (hscalar : value.scalar?.isSome = true)
    {items items' : List Node} (h : Rewrites (RetextedElement value value') items items') :
    ofNode registry (.seq items) = ofNode registry (.seq items') := by
  obtain ⟨text, htext⟩ := Option.isSome_iff_exists.mp hscalar
  have hread (location : Location) : scalarText location value = scalarText location value' := by
    rw [scalarText, scalarText, ← hvalue, htext]
  rw [Outline.ofNode_eq_tree, Outline.ofNode_eq_tree, Outline.ofNode, Outline.ofNode,
    Outline.readItems_retexted hread h]

end Playbook
