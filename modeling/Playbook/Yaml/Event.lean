import Playbook.Yaml.Token

/-!
# Events of a YAML document

The tokens of a text, as the sequence of nodes that they describe: a scalar, an alias, or the
start and end of a collection. Missing nodes become empty scalars, and tags are written out in
full. A text holds at most one document here.
-/

namespace Playbook.Yaml

/-- What stands before the content of a node. -/
structure Properties where
  anchor : Option String
  tag : Option String
  deriving DecidableEq, Repr, Inhabited

inductive Event where
  | alias (name : String)
  | scalar (properties : Properties) (text : String) (plain : Bool)
  | sequenceStart (properties : Properties)
  | sequenceEnd
  | mappingStart (properties : Properties)
  | mappingEnd
  deriving DecidableEq, Repr, Inhabited

namespace Event

abbrev Handles := List (String × String)

/-- Events read so far, last first, and the tokens that are left. -/
abbrev Parsed := Except Fault (List Event × List Token)

def noProperties : Properties := ⟨none, none⟩

def empty : Event := .scalar noProperties "" true

def fullTag (handles : Handles) (handle suffix : String) : Except Fault String :=
  if handle.isEmpty then .ok suffix
  else match handles.lookup handle with
    | some tagPrefix => .ok (tagPrefix ++ suffix)
    | none => .error .unknownHandle

/-- Reads the anchor and the tag of a node, in either order. -/
def readProperties (handles : Handles) (tokens : List Token) :
    Except Fault (Properties × List Token) :=
  match tokens with
  | .anchor name :: .tag handle suffix :: rest => do
    return (⟨some name, some (← fullTag handles handle suffix)⟩, rest)
  | .tag handle suffix :: .anchor name :: rest => do
    return (⟨some name, some (← fullTag handles handle suffix)⟩, rest)
  | .anchor name :: rest => .ok (⟨some name, none⟩, rest)
  | .tag handle suffix :: rest => do
    return (⟨none, some (← fullTag handles handle suffix)⟩, rest)
  | rest => .ok (noProperties, rest)

/-- The bare exclamation mark says nothing about a scalar; a plain scalar with a tag of its own is
not resolved any further. -/
def scalarEvent (properties : Properties) (text : String) (plain : Bool) : Event :=
  if properties.tag == some "!" then .scalar { properties with tag := none } text plain
  else .scalar properties text plain

def endsKey : List Token → Bool
  | .key :: _ => true
  | .value :: _ => true
  | .blockEnd :: _ => true
  | [] => true
  | _ => false

def endsFlowItem (close : Token) (allowValue : Bool) : List Token → Bool
  | .flowEntry :: _ => true
  | .value :: _ => allowValue
  | token :: _ => token == close
  | [] => true

mutual

/-- Reads a node. In the block context block collections may start; an indentless sequence may
stand as the value or key of a mapping. -/
def node (handles : Handles) (block indentless : Bool) :
    Nat → List Event → List Token → Parsed
  | 0, _, _ => .error .missingNode
  | fuel + 1, events, tokens =>
    match tokens with
    | .alias name :: rest => .ok (.alias name :: events, rest)
    | tokens => do
      let (properties, tokens) ← readProperties handles tokens
      let hasProperties := properties != noProperties
      match tokens with
      | .blockEntry :: _ =>
        if indentless then
          indentlessSequence handles fuel (.sequenceStart properties :: events) tokens
        else if hasProperties then
          return (.scalar properties "" true :: events, tokens)
        else .error .missingNode
      | .scalar text plain :: rest => return (scalarEvent properties text plain :: events, rest)
      | .flowSequenceStart :: rest =>
        flowSequence handles true fuel (.sequenceStart properties :: events) rest
      | .flowMappingStart :: rest =>
        flowMapping handles true fuel (.mappingStart properties :: events) rest
      | .blockSequenceStart :: rest =>
        if block then blockSequence handles fuel (.sequenceStart properties :: events) rest
        else if hasProperties then return (.scalar properties "" true :: events, tokens)
        else .error .missingNode
      | .blockMappingStart :: rest =>
        if block then blockMapping handles fuel (.mappingStart properties :: events) rest
        else if hasProperties then return (.scalar properties "" true :: events, tokens)
        else .error .missingNode
      | tokens =>
        if hasProperties then return (.scalar properties "" true :: events, tokens)
        else .error .missingNode

def blockSequence (handles : Handles) : Nat → List Event → List Token → Parsed
  | 0, _, _ => .error .missingSeparator
  | fuel + 1, events, tokens =>
    match tokens with
    | .blockEntry :: rest =>
      match rest with
      | .blockEntry :: _ => blockSequence handles fuel (empty :: events) rest
      | .blockEnd :: _ => blockSequence handles fuel (empty :: events) rest
      | rest => do
        let (events, rest) ← node handles true false fuel events rest
        blockSequence handles fuel events rest
    | .blockEnd :: rest => .ok (.sequenceEnd :: events, rest)
    | _ => .error .missingSeparator

def indentlessSequence (handles : Handles) : Nat → List Event → List Token → Parsed
  | 0, _, _ => .error .missingSeparator
  | fuel + 1, events, tokens =>
    match tokens with
    | .blockEntry :: rest =>
      match rest with
      | .blockEntry :: _ => indentlessSequence handles fuel (empty :: events) rest
      | rest =>
        if endsKey rest then indentlessSequence handles fuel (empty :: events) rest
        else do
          let (events, rest) ← node handles true false fuel events rest
          indentlessSequence handles fuel events rest
    | tokens => .ok (.sequenceEnd :: events, tokens)

def blockMapping (handles : Handles) : Nat → List Event → List Token → Parsed
  | 0, _, _ => .error .missingKey
  | fuel + 1, events, tokens =>
    match tokens with
    | .key :: rest => do
      let (events, rest) ←
        if endsKey rest then .ok (empty :: events, rest)
        else node handles true true fuel events rest
      blockMappingValue handles fuel events rest
    | .blockEnd :: rest => .ok (.mappingEnd :: events, rest)
    | .value :: _ => .error .missingKey
    | _ => .error .missingKey

def blockMappingValue (handles : Handles) : Nat → List Event → List Token → Parsed
  | 0, _, _ => .error .missingKey
  | fuel + 1, events, tokens =>
    match tokens with
    | .value :: rest => do
      let (events, rest) ←
        if endsKey rest then .ok (empty :: events, rest)
        else node handles true true fuel events rest
      blockMapping handles fuel events rest
    | tokens => blockMapping handles fuel (empty :: events) tokens

def flowSequence (handles : Handles) (first : Bool) : Nat → List Event → List Token → Parsed
  | 0, _, _ => .error .missingSeparator
  | fuel + 1, events, tokens =>
    let item (tokens : List Token) : Parsed :=
      match tokens with
      | .flowSequenceEnd :: rest => .ok (.sequenceEnd :: events, rest)
      | .key :: rest => do
        let (events, rest) ← flowPair handles fuel (.mappingStart noProperties :: events) rest
        flowSequence handles false fuel events rest
      | tokens => do
        let (events, rest) ← node handles false false fuel events tokens
        flowSequence handles false fuel events rest
    match tokens with
    | .flowSequenceEnd :: rest => .ok (.sequenceEnd :: events, rest)
    | .flowEntry :: rest => if first then .error .missingNode else item rest
    | tokens => if first then item tokens else .error .missingSeparator

/-- Reads a mapping of one entry that stands as an item of a flow sequence. -/
def flowPair (handles : Handles) : Nat → List Event → List Token → Parsed
  | 0, _, _ => .error .missingKey
  | fuel + 1, events, tokens => do
    let (events, tokens) ←
      if endsFlowItem .flowSequenceEnd true tokens then .ok (empty :: events, tokens.drop 1)
      else node handles false false fuel events tokens
    match tokens with
    | .value :: rest =>
      if endsFlowItem .flowSequenceEnd false rest then
        return (.mappingEnd :: empty :: events, rest)
      else
        let (events, rest) ← node handles false false fuel events rest
        return (.mappingEnd :: events, rest)
    | tokens => return (.mappingEnd :: empty :: events, tokens)

def flowMapping (handles : Handles) (first : Bool) : Nat → List Event → List Token → Parsed
  | 0, _, _ => .error .missingSeparator
  | fuel + 1, events, tokens =>
    let entry (tokens : List Token) : Parsed :=
      match tokens with
      | .flowMappingEnd :: rest => .ok (.mappingEnd :: events, rest)
      | .key :: rest => do
        let (events, rest) ←
          if endsFlowItem .flowMappingEnd true rest then .ok (empty :: events, rest)
          else node handles false false fuel events rest
        flowMappingValue handles fuel events rest
      | tokens => do
        let (events, rest) ← node handles false false fuel events tokens
        flowMapping handles false fuel (empty :: events) rest
    match tokens with
    | .flowMappingEnd :: rest => .ok (.mappingEnd :: events, rest)
    | .flowEntry :: rest => if first then .error .missingNode else entry rest
    | tokens => if first then entry tokens else .error .missingSeparator

def flowMappingValue (handles : Handles) : Nat → List Event → List Token → Parsed
  | 0, _, _ => .error .missingKey
  | fuel + 1, events, tokens =>
    match tokens with
    | .value :: rest => do
      let (events, rest) ←
        if endsFlowItem .flowMappingEnd false rest then .ok (empty :: events, rest)
        else node handles false false fuel events rest
      flowMapping handles false fuel events rest
    | tokens => flowMapping handles false fuel (empty :: events) tokens

end

def defaultHandles : Handles := [("!", "!"), ("!!", "tag:yaml.org,2002:")]

/-- Reads the directives before a document: at most one version, and no handle twice. -/
def readDirectives (seenVersion : Bool) (handles : Handles) :
    List Token → Except Fault (Handles × List Token)
  | .versionDirective major minor :: rest =>
    if seenVersion || major != 1 || (minor != 1 && minor != 2) then .error .version
    else readDirectives true handles rest
  | .tagDirective handle tagPrefix :: rest =>
    if (handles.lookup handle).isSome then .error .directive
    else readDirectives seenVersion ((handle, tagPrefix) :: handles) rest
  | rest => .ok (handles, rest)

def isDirective : Token → Bool
  | .versionDirective .. => true
  | .tagDirective .. => true
  | _ => false

/-- After the document only end marks may follow. -/
def finish (events : List Event) (rest : List Token) : Except Fault (List Event) :=
  if rest.all (· == .documentEnd) then .ok events.reverse else .error .moreDocuments

/-- The events of the only document among the tokens; none if there is no document. -/
def ofTokens (tokens : List Token) : Except Fault (List Event) := do
  let fuel := 2 * tokens.length + 2
  match tokens with
  | [] => return []
  | first :: _ =>
    if isDirective first || first == .documentStart then
      let (own, rest) ← readDirectives false [] tokens
      let handles := own ++ defaultHandles
      match rest with
      | .documentStart :: rest =>
        match rest with
        | [] => finish [empty] []
        | next :: _ =>
          if isDirective next || next == .documentStart || next == .documentEnd then
            finish [empty] rest
          else
            let (events, rest) ← node handles true false fuel [] rest
            finish events rest
      | _ => .error .missingDocumentStart
    else
      let (events, rest) ← node defaultHandles true false fuel [] tokens
      finish events rest

end Event

end Playbook.Yaml
