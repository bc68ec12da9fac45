import Playbook.Yaml.Event
import Playbook.Yaml.Node

/-!
# Reading a YAML document

`Node.parse` reads a text into a node. A plain scalar is null, a boolean, a number or a string by
its spelling; a local tag stays on its node; an alias stands for a copy of the node it names. How
deep nodes nest and how often aliases are followed is limited.
-/

namespace Playbook.Yaml

namespace Node

def nullWords : List String := ["null", "Null", "NULL", "~"]
def trueWords : List String := ["true", "True", "TRUE"]
def falseWords : List String := ["false", "False", "FALSE"]

def boolOf? (text : String) : Option Bool :=
  if text ∈ trueWords then some true else if text ∈ falseWords then some false else none

def dropSign : List Char → List Char
  | '+' :: rest => rest
  | '-' :: rest => rest
  | rest => rest

/-- Digits behind a superfluous leading zero are text, not a number. -/
def hasLeadingZero (text : List Char) : Bool :=
  match dropSign text with
  | '0' :: d :: rest => (d :: rest).all Char.isDigit
  | _ => false

def startsWithSign : List Char → Bool
  | '+' :: _ => true
  | '-' :: _ => true
  | _ => false

def base? : Char → Option Nat
  | 'x' => some 16
  | 'o' => some 8
  | 'b' => some 2
  | _ => none

def decimalWithin (below above : Nat) (text : List Char) : Option Int :=
  if hasLeadingZero text then none
  else (Decimal.Integer.parse 10 below above text).toOption

/-- A number from zero to `above`, decimal or behind the mark of its base. -/
def unsigned? (above : Nat) (text : List Char) : Option Int :=
  let rest := match text with
    | '+' :: rest => rest
    | rest => rest
  let decimal := if startsWithSign rest || hasLeadingZero text then none
    else (Decimal.Integer.parse 10 0 above rest).toOption
  match rest with
  | '0' :: mark :: digits =>
    match base? mark with
    | none => decimal
    | some base =>
      if startsWithSign digits then none
      else match Decimal.Integer.parse base 0 above digits with
        | .ok n => some n
        | .error _ => decimal
  | _ => decimal

/-- A number from `-below` on, decimal or behind the mark of its base. -/
def signed? (below above : Nat) (text : List Char) : Option Int :=
  let based := match text with
    | '-' :: '0' :: mark :: digits =>
      (base? mark).bind fun base ↦
        (Decimal.Integer.parse base below above ('-' :: digits)).toOption
    | _ => none
  based <|> decimalWithin below above text

/-- An integer that fits into a word of some bits, with a sign or without. -/
def ofWord? (bits : Nat) (text : List Char) : Option Int :=
  let half := Nat.pow 2 (bits - 1)
  unsigned? (2 * half - 1) text <|> signed? half (half - 1) text

/-- The integer that a scalar spells, if it spells one; it may be out of range. -/
def integer? (text : List Char) : Option (Except Fault Int) :=
  match ofWord? 64 text with
  | some n => some (.ok n)
  | none => if (ofWord? 128 text).isSome then some (.error .integerRange) else none

def float? (text : List Char) : Option Float :=
  let rest := match text with
    | '+' :: rest => rest
    | rest => rest
  if text.head? == some '+' && startsWithSign rest then none
  else
    let name := String.ofList text
    if String.ofList rest ∈ [".inf", ".Inf", ".INF"] then some (Float.ofBits 0x7FF0000000000000)
    else if name ∈ ["-.inf", "-.Inf", "-.INF"] then some (Float.ofBits 0xFFF0000000000000)
    else if name ∈ [".nan", ".NaN", ".NAN"] then some (Float.ofBits 0x7FF8000000000000)
    else (Decimal.float? rest).filter Float.isFinite

/-- What a plain scalar without a tag means. -/
def ofPlain (text : String) : Except Fault Node :=
  let chars := text.toList
  if text == "" || text ∈ nullWords then .ok .null
  else match boolOf? text with
    | some value => .ok (.bool value)
    | none =>
      match integer? chars with
      | some number => number.map .int
      | none =>
        if hasLeadingZero chars then .ok (.str text)
        else match float? chars with
          | some value => .ok (.float value)
          | none => .ok (.str text)

def isLocalTag (tag : String) : Bool :=
  tag.startsWith "!"

def coreTag (name : String) : String :=
  "tag:yaml.org,2002:" ++ name

/-- A scalar under a tag that is not local: its text must fit a tag for scalars of the core
schema, and under any other tag it is a string. -/
def ofTaggedScalar (tag text : String) : Except Fault Node :=
  if tag == coreTag "bool" then
    match boolOf? text with
    | some value => .ok (.bool value)
    | none => .error .scalar
  else if tag == coreTag "int" then
    match integer? text.toList with
    | some number => number.map .int
    | none => .error .scalar
  else if tag == coreTag "float" then
    match float? text.toList with
    | some value => .ok (.float value)
    | none => .error .scalar
  else if tag == coreTag "null" then
    if text ∈ nullWords then .ok .null else .error .scalar
  else .ok (.str text)

def underTag (tag : Option String) (content : Node) : Node :=
  match tag with
  | some tag => if isLocalTag tag then .tagged tag content else content
  | none => content

def ofScalar (tag : Option String) (text : String) (plain : Bool) : Except Fault Node :=
  let untagged := if plain then ofPlain text else .ok (.str text)
  match tag with
  | none => untagged
  | some tag =>
    if isLocalTag tag then untagged.map (.tagged tag) else ofTaggedScalar tag text

end Node

/-- The anchors of a document: the number given to each name, and the place of each number among
the events. -/
structure Anchors where
  numbers : List (String × Nat)
  places : List (Nat × Nat)

namespace Anchors

/-- A name gets as its number how many names were known before; an older place of that number is
forgotten. -/
def add (anchors : Anchors) (name : Option String) (place : Nat) : Anchors :=
  match name with
  | none => anchors
  | some name =>
    let number := anchors.numbers.length
    ⟨(name, number) :: anchors.numbers.filter (·.1 != name), (number, place) :: anchors.places⟩

end Anchors

/-- A step in building nodes: an event, or the number of the anchor that is copied. -/
inductive Step where
  | copy (number : Nat)
  | event (event : Event)

def Event.anchor? : Event → Option String
  | .scalar properties _ _ => properties.anchor
  | .sequenceStart properties => properties.anchor
  | .mappingStart properties => properties.anchor
  | _ => none

/-- Numbers the anchors and aliases of a document, from the event at `place` on. -/
def numberAnchors (anchors : Anchors) (place : Nat) :
    List Event → Except Fault (Anchors × List Step)
  | [] => .ok (anchors, [])
  | .alias name :: rest =>
    match anchors.numbers.lookup name with
    | none => .error .unknownAnchor
    | some number =>
      (numberAnchors anchors (place + 1) rest).map fun (anchors, steps) ↦
        (anchors, .copy number :: steps)
  | event :: rest =>
    (numberAnchors (anchors.add event.anchor? place) (place + 1) rest).map
      fun (anchors, steps) ↦ (anchors, .event event :: steps)

namespace Node

/-- A whole document: its steps, and where each anchor stands among them. -/
structure Source where
  steps : List Step
  places : List (Nat × Nat)

/-- The number of copies a document may make. -/
def Source.copyLimit (source : Source) : Nat :=
  100 * source.steps.length

/-- How deep collections may nest. -/
def depthLimit : Nat := 128

/-- What was built, the number of copies made so far, and the steps that are left. -/
abbrev Built (α : Type) := Except Fault (α × Nat × List Step)

mutual

/-- Builds the node that starts at the given steps; collections may still nest `depth` deep. -/
def build (source : Source) : Nat → (depth copies : Nat) → List Step → Built Node
  | 0, _, _, _ => .error .tooDeep
  | fuel + 1, depth, copies, steps =>
    match steps with
    | .copy number :: rest =>
      if copies ≥ source.copyLimit then .error .tooManyAliases
      else
        let place := (source.places.lookup number).getD 0
        match build source fuel depth (copies + 1) (source.steps.drop place) with
        | .error fault => .error fault
        | .ok (node, copies, _) => .ok (node, copies, rest)
    | .event (.scalar properties text plain) :: rest =>
      (ofScalar properties.tag text plain).map fun node ↦ (node, copies, rest)
    | .event (.sequenceStart properties) :: rest =>
      if depth == 0 then .error .tooDeep
      else (buildItems source fuel (depth - 1) copies rest).map fun (items, copies, rest) ↦
        (underTag properties.tag (.seq items), copies, rest)
    | .event (.mappingStart properties) :: rest =>
      if depth == 0 then .error .tooDeep
      else (buildEntries source fuel (depth - 1) copies [] rest).map fun (entries, copies, rest) ↦
        (underTag properties.tag (.map entries), copies, rest)
    | _ => .error .missingNode

def buildItems (source : Source) : Nat → (depth copies : Nat) → List Step → Built (List Node)
  | 0, _, _, _ => .error .tooDeep
  | fuel + 1, depth, copies, steps =>
    match steps with
    | .event .sequenceEnd :: rest => .ok ([], copies, rest)
    | steps =>
      match build source fuel depth copies steps with
      | .error fault => .error fault
      | .ok (node, copies, rest) =>
        (buildItems source fuel depth copies rest).map fun (items, copies, rest) ↦
          (node :: items, copies, rest)

/-- Builds the entries of a mapping after those in `earlier`; no key may occur twice. -/
def buildEntries (source : Source) :
    Nat → (depth copies : Nat) → (earlier : List (Node × Node)) → List Step →
      Built (List (Node × Node))
  | 0, _, _, _, _ => .error .tooDeep
  | fuel + 1, depth, copies, earlier, steps =>
    match steps with
    | .event .mappingEnd :: rest => .ok (earlier.reverse, copies, rest)
    | steps =>
      match build source fuel depth copies steps with
      | .error fault => .error fault
      | .ok (key, copies, rest) =>
        if earlier.any fun entry ↦ same entry.1 key then .error .duplicateKey
        else match build source fuel depth copies rest with
          | .error fault => .error fault
          | .ok (value, copies, rest) =>
            buildEntries source fuel depth copies ((key, value) :: earlier) rest

end

/-- The node that the events of a document describe; a text without a document is null. -/
def ofEvents (events : List Event) : Except Fault Node := do
  let (anchors, steps) ← numberAnchors ⟨[], []⟩ 0 events
  if steps.isEmpty then return .null
  else
    let fuel := (2 * steps.length + 4) * (depthLimit + 2)
    let (node, _, _) ← build ⟨steps, anchors.places⟩ fuel depthLimit 0 steps
    return node

def parse (text : String) : Except Fault Node := do
  ofEvents (← Event.ofTokens (← Token.scan text))

end Node

end Playbook.Yaml
