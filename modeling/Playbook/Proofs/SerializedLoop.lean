import Playbook.Engine
import Playbook.Proofs.Recital
import Playbook.Proofs.Spelling.Value
import Playbook.Template.Engine

/-!
# Loops over serialized facts

A loop may take its items from a template that writes a list fact as JSON. The text is read back
right after, so that the loop visits the items of the fact, one after another and nothing else.
-/

namespace Playbook

/-! ## Lists are read back -/

theorem Json.parseList_compact {items : List Json} (hexact : (Json.arr items).Exact)
    (hheight : (Json.arr items).height ≤ maxDepth) :
    parseList (Json.arr items).compact = .ok items := by
  have hlength : items.length < (spelledItems [] items ++ [']']).length + 1 := by
    have hle := length_le_spelledItems hexact []
    rw [List.length_append]
    omega
  have hread := items_spelled [] hexact
    (itemsRead items hexact (maxDepth - 1) (Nat.le_sub_one_of_lt hheight)) true [] hlength
  rw [if_pos rfl] at hread
  have hlist : list (spelled (.arr items)) = .ok (items, []) := by
    rw [spelled]
    exact hread
  rw [parseList, toList_compact, hlist]
  rfl

namespace Template

mutual

/-- A value without floats comes back from what it is in a template. -/
theorem Value.toJson?_ofJson : (given : Json) → given.Exact →
    (Value.ofJson given).toJson? = some given
  | .null, _ | .bool _, _ | .int _, _ | .str _, _ => rfl
  | .float _, h => h.elim
  | .arr items, h => by
    rw [ofJson, toJson?, toItems?_ofItems items h]
    rfl
  | .obj fields, h => by
    rw [ofJson, toJson?, toFields?_ofFields fields h.2]
    rfl

theorem Value.toItems?_ofItems : (items : List Json) → Json.ExactItems items →
    toItems? (ofItems items) = some items
  | [], _ => rfl
  | item :: rest, h => by
    rw [ofItems, toItems?, toJson?_ofJson item h.1, toItems?_ofItems rest h.2]

theorem Value.toFields?_ofFields : (fields : List (String × Json)) → Json.ExactFields fields →
    toFields? (ofFields fields) = some fields
  | [], _ => rfl
  | (key, value) :: rest, h => by
    rw [ofFields, toFields?, toJson?_ofJson value h.1, toFields?_ofFields rest h.2]
    rfl

end

/-- The template that writes a fact as JSON. -/
def serialized : String := "\x7b\x7b xs | tojson \x7d\x7d"

theorem scan_serialized : Token.scan serialized =
    .ok [⟨1, .printStart⟩, ⟨1, .name "xs"⟩, ⟨1, .operator "|"⟩, ⟨1, .name "tojson"⟩,
      ⟨1, .printEnd⟩] := by
  rfl

theorem parse_serialized :
    parse serialized = .ok [.print (.filter (.var "xs") (.mk 1 "tojson" []))] := by
  rw [parse, scan_serialized]
  cbv

/-! ## The template writes the list -/

namespace Evaluation

theorem bind_of_ok {α β : Type} {x : Evaluation α} {f : α → Evaluation β} {value : α}
    {memory memory' : Memory} (h : x memory = .ok (value, memory')) :
    (x >>= f) memory = f value memory' := by
  change Except.bind (x memory) _ = _
  rw [h]
  rfl

variable {facts : Facts} {items : List Json}

/-- At the start of a rendering no variable hides a fact. -/
theorem valueOf?_fact {name : String} {value : Json} (hfact : facts.get? name = some value) :
    valueOf? facts name {} = .ok (some (.ofJson value), {}) := by
  change Except.ok ((facts.get? name).map Value.ofJson, _) = _
  rw [hfact]
  rfl

/-- The filter writes the fact as JSON. -/
theorem evaluate_serialized (caller : Caller) (hfact : facts.get? "xs" = some (.arr items))
    (hexact : (Json.arr items).Exact) :
    evaluate facts caller (.filter (.var "xs") (.mk 1 "tojson" [])) {} =
      .ok (.str (Json.arr items).compact, {}) := by
  have hvar : evaluate facts caller (.var "xs") {} = .ok (.ofJson (.arr items), {}) := by
    rw [evaluate, bind_of_ok (valueOf?_fact hfact)]
    rfl
  have harguments : evaluateArguments facts caller [] {} = .ok (([], []), {}) := rfl
  have hjson : Filter.toJson (.ofJson (.arr items)) = .ok (.str (Json.arr items).compact) := by
    rw [Filter.toJson, Value.toJson?_ofJson _ hexact]
  have hcall : Filter.call? "tojson" (.ofJson (.arr items)) [] =
      some (Filter.toJson (.ofJson (.arr items))) := rfl
  rw [evaluate, bind_of_ok hvar, bind_of_ok harguments]
  dsimp only [asList, List.isEmpty_nil, if_true]
  rw [if_pos rfl, applyFilter, hcall, hjson]
  rfl

end Evaluation

variable {facts : Facts} {items : List Json}

theorem render_serialized (hfact : facts.get? "xs" = some (.arr items))
    (hexact : (Json.arr items).Exact) :
    render serialized facts = .ok (Json.arr items).compact := by
  let caller := Rendering.invoke facts Rendering.callLimit
  have hvalue := Evaluation.evaluate_serialized caller hfact hexact
  have hprint : Rendering.renderPiece facts caller
      (.print (.filter (.var "xs") (.mk 1 "tojson" []))) {} =
        .ok (⟨⟩, { output := "" ++ (Json.arr items).compact }) := by
    rw [Rendering.renderPiece, Evaluation.bind_of_ok hvalue]
    rfl
  rw [render, parse_serialized]
  change Rendering.output _ facts = _
  rw [Rendering.output, Rendering.renderAll, Evaluation.bind_of_ok hprint, String.empty_append]
  rfl

theorem resolver_serialized (hfact : facts.get? "xs" = some (.arr items))
    (hexact : (Json.arr items).Exact) :
    resolver serialized facts = .ok (Json.arr items).compact := by
  have htemplate : isTemplate serialized = true := by decide
  rw [resolver, if_pos htemplate, render_serialized hfact hexact]
  rfl

end Template

namespace Engine

/-- A loop visits the items of the list that its template is resolved to. -/
theorem loopItems_of_answer {context : Context} {s : Session} {template answer : String}
    {items : List Json} (hanswer : context.resolver template s.facts = .ok answer)
    (hread : Json.parseList answer = .ok items) :
    (loopItems context (.var template)).run s =
      (.ok items, s.withCalls (template :: s.journal.calls)) := by
  let scope : Scope := ⟨context.resolver, s.facts⟩
  have htext (r : Resolution) : (Resolving.text scope template).run r =
      (.ok answer, r.having [template]) := by
    rw [← hanswer]
    exact Resolving.Yields.text scope template r
  have hspec : (LoopSpec.resolve scope (.var template)).run (.start s.journal.calls) =
      (.ok (.var answer), (Resolution.start s.journal.calls).having [template]) := by
    rw [LoopSpec.resolve, run_bind_of_ok (htext _)]
    rfl
  have hresolve := resolving_run context (LoopSpec.resolve · (.var template)) s
  rw [hspec] at hresolve
  have hbecause := because_run ExecutionError.resolve
    (Acting.resolving context (LoopSpec.resolve · (.var template))) s
  rw [hresolve] at hbecause
  rw [loopItems, run_bind_of_ok hbecause]
  dsimp only
  rw [hread]
  rfl

/-- A loop over a list fact that its template writes as JSON visits the items of the fact, in their
order and unchanged, and the template is asked for once. -/
theorem loopItems_serialized (context : Context) (s : Session) (items : List Json)
    (hresolver : context.resolver = Template.resolver)
    (hfact : s.facts.get? "xs" = some (.arr items)) (hexact : (Json.arr items).Exact)
    (hheight : (Json.arr items).height ≤ 127) :
    (loopItems context (.var Template.serialized)).run s =
      (.ok items, s.withCalls (Template.serialized :: s.journal.calls)) := by
  have hanswer : context.resolver Template.serialized s.facts = .ok (Json.arr items).compact := by
    rw [hresolver]
    exact Template.resolver_serialized hfact hexact
  exact loopItems_of_answer hanswer (Json.parseList_compact hexact hheight)

/-- Items with every kind of escape, numbers at both ends, and empty and nested containers. -/
def edgeItems : List Json :=
  [.null, .str "\"\\/\n\r\t\x08\x0c\x01\x7f é 𝄞", .int (-9223372036854775808),
    .int 18446744073709551615, .arr [], .obj [],
    .obj [("", .arr [.bool true, .arr []]), ("\"key\"", .obj [("k", .int 0)])]]

theorem loopItems_serialized_edge :
    let context : Context := ⟨.standard, .empty, Template.resolver, ∅⟩
    let facts : Facts := SortedMap.ofList [("xs", .arr edgeItems)]
    let s : Session := { Session.start .standard (.initial []) with facts }
    (Json.arr edgeItems).Exact ∧ (Json.arr edgeItems).height ≤ 127 ∧
      (loopItems context (.var Template.serialized)).run s =
        (.ok edgeItems, s.withCalls [Template.serialized]) := by
  intro context facts s
  have hexact : (Json.arr edgeItems).Exact := by decide
  have hheight : (Json.arr edgeItems).height ≤ 127 := by decide
  exact ⟨hexact, hheight, loopItems_serialized context s edgeItems rfl rfl hexact hheight⟩

end Engine

end Playbook
