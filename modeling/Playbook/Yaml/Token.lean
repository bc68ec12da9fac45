import Playbook.Yaml.Scalar

/-!
# Tokens of a YAML text

`Token.scan` splits a text into tokens. Block structure is made explicit: a deeper indentation
opens a collection and a shallower one closes it. Whether a node is a key of a mapping shows only
at the colon after it, so every place where a key could start is remembered, and the tokens that
belong before the key are put in when the colon is met.
-/

namespace Playbook.Yaml

inductive Token where
  | versionDirective (major minor : Nat)
  | tagDirective (handle tagPrefix : String)
  | documentStart
  | documentEnd
  | blockSequenceStart
  | blockMappingStart
  | blockEnd
  | flowSequenceStart
  | flowSequenceEnd
  | flowMappingStart
  | flowMappingEnd
  | blockEntry
  | flowEntry
  | key
  | value
  | alias (name : String)
  | anchor (name : String)
  | tag (handle suffix : String)
  | scalar (text : String) (plain : Bool)
  deriving DecidableEq, Repr, Inhabited

/-- A place where a key may have started: its position among the tokens and in the text. A
required key must be one, or the text is not well formed. -/
structure KeyPlace where
  required : Bool
  token : Nat
  index : Nat
  line : Nat
  column : Nat

/-- The state between two tokens. `places` holds one possible key place for every open flow
collection and one for the block context, innermost first. -/
structure Scanner where
  cursor : Cursor
  flowLevel : Nat
  indent : Int
  outerIndents : List Int
  keyAllowed : Bool
  places : List (Option KeyPlace)
  tokens : Array Token

namespace Scanner

abbrev Step := Except Fault Scanner

def start (text : List Char) : Scanner :=
  ⟨.start text, 0, -1, [], true, [none], #[]⟩

def push (s : Scanner) (token : Token) : Scanner :=
  { s with tokens := s.tokens.push token }

def skip (s : Scanner) (n : Nat) : Scanner :=
  { s with cursor := s.cursor.skip n }

def allowKey (s : Scanner) (allowed : Bool) : Scanner :=
  { s with keyAllowed := allowed }

def insertToken (s : Scanner) (position : Nat) (token : Token) : Scanner :=
  let after := s.tokens.extract position s.tokens.size
  { s with tokens := (s.tokens.extract 0 position).push token ++ after }

/-- A key must end on its line and within 1024 characters. -/
def isStale (c : Cursor) (place : KeyPlace) : Bool :=
  place.line < c.line || place.index + 1024 < c.index

def dropStale (s : Scanner) : Step :=
  if s.places.any (·.any fun place ↦ isStale s.cursor place && place.required) then
    .error .missingColon
  else .ok { s with places := s.places.map (·.filter (!isStale s.cursor ·)) }

/-- The innermost possible key place is given up. -/
def dropPlace (s : Scanner) : Step :=
  match s.places with
  | some place :: outer =>
    if place.required then .error .missingColon else .ok { s with places := none :: outer }
  | _ => .ok s

/-- A key may start here. -/
def savePlace (s : Scanner) : Step :=
  if s.keyAllowed then do
    let required := s.flowLevel == 0 && s.indent == s.cursor.column
    let place := ⟨required, s.tokens.size, s.cursor.index, s.cursor.line, s.cursor.column⟩
    let s ← s.dropPlace
    return { s with places := some place :: s.places.tail }
  else .ok s

/-- Opens a block collection if `column` is deeper than the current indentation. -/
def openBlock (s : Scanner) (column : Nat) (position : Nat) (token : Token) : Scanner :=
  if s.flowLevel == 0 && s.indent < column then
    { s with outerIndents := s.indent :: s.outerIndents, indent := column }.insertToken position
      token
  else s

/-- Closes block collections deeper than `column`; `open` holds the indentations around them. -/
def closeFrom (column : Int) (s : Scanner) : List Int → Scanner
  | [] => s
  | outer :: rest =>
    if s.indent > column then
      closeFrom column
        { s with indent := outer, outerIndents := rest, tokens := s.tokens.push .blockEnd } rest
    else s

def closeBlocks (s : Scanner) (column : Int) : Scanner :=
  if s.flowLevel == 0 then closeFrom column s s.outerIndents else s

/-- Steps over blanks, comments and line breaks. A tab may not stand where a key may start in the
block context. -/
def toNextToken : Nat → Scanner → Scanner
  | 0, s => s
  | fuel + 1, s =>
    let c := if s.cursor.index == 0 && s.cursor.head == '\uFEFF' then s.cursor.skip 1 else s.cursor
    let c := c.skipWhile fun x ↦ x == ' ' || (x == '\t' && (s.flowLevel > 0 || !s.keyAllowed))
    let c := if c.head == '#' then c.skipWhile (!isBreakOrEnd ·) else c
    if isBreak c.head then
      toNextToken fuel
        { s with cursor := c.skipLine, keyAllowed := s.keyAllowed || s.flowLevel == 0 }
    else { s with cursor := c }

def versionNumber (c : Cursor) : Except Fault (Nat × Cursor) :=
  let digits := c.rest.takeWhile Char.isDigit
  if digits.isEmpty || digits.length > 9 then .error .version
  else .ok (Decimal.digitsValue digits, c.skip digits.length)

def tagHandle (isDirective : Bool) (c : Cursor) : Except Fault (String × Cursor) :=
  if c.head != '!' then .error .tag
  else
    let word := (c.rest.drop 1).takeWhile isWordChar
    let c := c.skip (1 + word.length)
    if c.head == '!' then .ok (String.ofList ('!' :: word ++ ['!']), c.skip 1)
    else if isDirective && !word.isEmpty then .error .tag
    else .ok (String.ofList ('!' :: word), c)

def isUriChar (verbatim : Bool) (c : Char) : Bool :=
  isWordChar c ||
    c ∈ [';', '/', '?', ':', '@', '&', '=', '+', '$', '.', '!', '~', '*', '\'', '(', ')', '%'] ||
    (verbatim && c ∈ [',', '[', ']'])

/-- The bytes of a tag, its percent escapes replaced. -/
def uriBytes : List Char → Except Fault (List UInt8)
  | [] => .ok []
  | '%' :: a :: b :: rest =>
    match Decimal.Integer.digitValue? 16 a, Decimal.Integer.digitValue? 16 b with
    | some a, some b => (uriBytes rest).map (UInt8.ofNat (16 * a + b) :: ·)
    | _, _ => .error .tag
  | c :: rest =>
    if c == '%' then .error .tag else (uriBytes rest).map (UInt8.ofNat c.toNat :: ·)

def tagUri (verbatim : Bool) (head : String) (c : Cursor) : Except Fault (String × Cursor) := do
  let raw := c.rest.takeWhile (isUriChar verbatim)
  if raw.isEmpty && head.isEmpty then .error .tag
  else
    match String.fromUTF8? ⟨(← uriBytes raw).toArray⟩ with
    | some text => return (String.ofList (head.toList.drop 1) ++ text, c.skip raw.length)
    | none => .error .tag

def tagToken (inFlow : Bool) (c : Cursor) : Except Fault (Token × Cursor) := do
  let finish (handle suffix : String) (c : Cursor) : Except Fault (Token × Cursor) :=
    if isBlankOrEnd c.head || (inFlow && c.head == ',') then .ok (.tag handle suffix, c)
    else .error .tag
  if c.peek 1 == '<' then
    let (suffix, c) ← tagUri true "" (c.skip 2)
    if c.head == '>' then finish "" suffix (c.skip 1) else .error .tag
  else
    let (handle, c) ← tagHandle false c
    if handle.length > 1 && handle.endsWith "!" then
      let (suffix, c) ← tagUri false "" c
      finish handle suffix c
    else
      let (suffix, c) ← tagUri false handle c
      if suffix.isEmpty then finish "" "!" c else finish "!" suffix c

def anchorName (c : Cursor) : Except Fault (String × Cursor) :=
  let name := (c.rest.drop 1).takeWhile isWordChar
  let c := c.skip (1 + name.length)
  if name.isEmpty ||
      !(isBlankOrEnd c.head || c.head ∈ ['?', ':', ',', ']', '\x7d', '%', '@', '\x60'])
  then .error .anchor
  else .ok (String.ofList name, c)

def directive (c : Cursor) : Except Fault (Token × Cursor) := do
  let name := (c.rest.drop 1).takeWhile isWordChar
  let c := c.skip (1 + name.length)
  if name.isEmpty || !isBlankOrEnd c.head then .error .directive
  else
    let c := c.skipWhile isBlank
    let (token, c) ←
      if String.ofList name == "YAML" then do
        let (major, c) ← versionNumber c
        if c.head != '.' then .error .version
        else
          let (minor, c) ← versionNumber (c.skip 1)
          pure (Token.versionDirective major minor, c)
      else if String.ofList name == "TAG" then do
        let (handle, c) ← tagHandle true c
        if !isBlank c.head then .error .tag
        else
          let (tagPrefix, c) ← tagUri true "" (c.skipWhile isBlank)
          if !isBlankOrEnd c.head then .error .tag
          else pure (Token.tagDirective handle tagPrefix, c)
      else .error .directive
    let c := c.skipWhile isBlank
    let c := if c.head == '#' then c.skipWhile (!isBreakOrEnd ·) else c
    if isBreakOrEnd c.head then return (token, c.skipLine) else .error .directive

def flowStart (s : Scanner) (token : Token) : Step := do
  let s ← s.savePlace
  let s := { s with places := none :: s.places, flowLevel := s.flowLevel + 1 }
  return ((s.allowKey true).push token).skip 1

def flowEnd (s : Scanner) (token : Token) : Step := do
  let s ← s.dropPlace
  let s :=
    if s.flowLevel > 0 then { s with places := s.places.tail, flowLevel := s.flowLevel - 1 } else s
  return ((s.allowKey false).push token).skip 1

def blockEntry (s : Scanner) : Step := do
  if s.flowLevel == 0 && !s.keyAllowed then .error .misplacedEntry
  else
    let s := s.openBlock s.cursor.column s.tokens.size .blockSequenceStart
    let s ← s.dropPlace
    return ((s.allowKey true).push .blockEntry).skip 1

def explicitKey (s : Scanner) : Step := do
  if s.flowLevel == 0 && !s.keyAllowed then .error .misplacedKey
  else
    let s := s.openBlock s.cursor.column s.tokens.size .blockMappingStart
    let s ← s.dropPlace
    return ((s.allowKey (s.flowLevel == 0)).push .key).skip 1

def mappingValue (s : Scanner) : Step :=
  match s.places with
  | some place :: outer =>
    let s := { s with places := none :: outer }.insertToken place.token .key
    let s := s.openBlock place.column place.token .blockMappingStart
    .ok (((s.allowKey false).push .value).skip 1)
  | _ =>
    if s.flowLevel == 0 && !s.keyAllowed then .error .misplacedValue
    else
      let s := s.openBlock s.cursor.column s.tokens.size .blockMappingStart
      .ok (((s.allowKey (s.flowLevel == 0)).push .value).skip 1)

/-- A token that may be a key by itself, read by `scan`. -/
def simpleNode (s : Scanner) (scan : Cursor → Except Fault (Token × Cursor)) : Step := do
  let s ← s.savePlace
  let (token, c) ← scan s.cursor
  return { (s.allowKey false).push token with cursor := c }

def plainNode (s : Scanner) : Step := do
  let s ← s.savePlace
  let (text, broken, c) ← plainScalar (s.flowLevel > 0) (s.indent + 1).toNat s.cursor
  return { (s.allowKey broken).push (.scalar text true) with cursor := c }

def blockNode (s : Scanner) (literal : Bool) : Step := do
  let s ← s.dropPlace
  let (text, c) ← blockScalar literal s.indent s.cursor
  return { (s.allowKey true).push (.scalar text false) with cursor := c }

/-- Ends the block context before a directive or a document mark. -/
def leaveBlocks (s : Scanner) : Step := do
  let s ← (s.closeBlocks (-1)).dropPlace
  return s.allowKey false

def startsPlain (s : Scanner) : Bool :=
  let c := s.cursor
  let indicators := ['-', '?', ':', ',', '[', ']', '\x7b', '\x7d', '#', '&', '*', '!', '|', '>',
    '\'', '\"', '%', '@', '\x60']
  (!isBlankOrEnd c.head && c.head ∉ indicators) ||
    (c.head == '-' && !isBlank (c.peek 1)) ||
    (s.flowLevel == 0 && (c.head == '?' || c.head == ':') && !isBlankOrEnd (c.peek 1))

/-- Reads the token at the cursor, which stands on no blank. -/
def token (s : Scanner) : Step := do
  let c := s.cursor
  let isIndicator := s.flowLevel > 0 || isBlankOrEnd (c.peek 1)
  if c.column == 0 && c.head == '%' then
    let s ← s.leaveBlocks
    let (token, c) ← directive c
    return { s.push token with cursor := c }
  else if c.atMark '-' then return ((← s.leaveBlocks).push .documentStart).skip 3
  else if c.atMark '.' then return ((← s.leaveBlocks).push .documentEnd).skip 3
  else if c.head == '[' then s.flowStart .flowSequenceStart
  else if c.head == '\x7b' then s.flowStart .flowMappingStart
  else if c.head == ']' then s.flowEnd .flowSequenceEnd
  else if c.head == '\x7d' then s.flowEnd .flowMappingEnd
  else if c.head == ',' then return (((← s.dropPlace).allowKey true).push .flowEntry).skip 1
  else if c.head == '-' && isBlankOrEnd (c.peek 1) then s.blockEntry
  else if c.head == '?' && isIndicator then s.explicitKey
  else if c.head == ':' && isIndicator then s.mappingValue
  else if c.head == '*' then s.simpleNode fun c ↦ (anchorName c).map fun (n, c) ↦ (.alias n, c)
  else if c.head == '&' then s.simpleNode fun c ↦ (anchorName c).map fun (n, c) ↦ (.anchor n, c)
  else if c.head == '!' then s.simpleNode (tagToken (s.flowLevel > 0))
  else if c.head == '|' && s.flowLevel == 0 then s.blockNode true
  else if c.head == '>' && s.flowLevel == 0 then s.blockNode false
  else if c.head == '\'' then
    s.simpleNode fun c ↦ (quotedScalar true c).map fun (text, c) ↦ (.scalar text false, c)
  else if c.head == '\"' then
    s.simpleNode fun c ↦ (quotedScalar false c).map fun (text, c) ↦ (.scalar text false, c)
  else if s.startsPlain then s.plainNode
  else .error .noToken

/-- Reads tokens to the end of the text. -/
def run : Nat → Scanner → Except Fault (List Token)
  | 0, _ => .error .noToken
  | fuel + 1, s => do
    let s := s.toNextToken (s.cursor.rest.length + 1)
    let s ← s.dropStale
    let s := s.closeBlocks s.cursor.column
    if s.cursor.atEnd then
      let s ← (s.closeBlocks (-1)).dropPlace
      return s.tokens.toList
    else run fuel (← s.token)

end Scanner

/-- The tokens of a text, or the first fault in it. -/
def Token.scan (text : String) : Except Fault (List Token) :=
  let chars := text.toList
  let body := if chars.head? == some '\uFEFF' then chars.drop 1 else chars
  if !body.all isReadable then .error .character
  else (Scanner.start body).run (body.length + 1)

end Playbook.Yaml
