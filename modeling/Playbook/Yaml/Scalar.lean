import Playbook.Decimal.Reading
import Playbook.Yaml.Cursor

/-!
# The text of a scalar

Each function reads one scalar from its first character on and returns its text with the cursor
after it. Within a scalar a single line break becomes a blank and further ones are kept; what is
collected is held last character first.
-/

namespace Playbook.Yaml

/-- What a run of blanks and line breaks inside a scalar amounts to. -/
structure Gap where
  blanks : List Char
  /-- The first line break, if the run has one. -/
  first : List Char
  further : List Char
  broken : Bool

def Gap.none : Gap := ⟨[], [], [], false⟩

/-- Puts a gap onto text that is held last character first. -/
def Gap.onto (gap : Gap) (text : List Char) : List Char :=
  if gap.broken then
    if gap.first == ['\n'] then
      if gap.further.isEmpty then ' ' :: text else gap.further ++ text
    else gap.further ++ gap.first ++ text
  else gap.blanks ++ text

/-- Reads blanks and line breaks onto `gap`. A tab before `indent` on a new line is a fault. -/
def readGap (indent : Nat) : Nat → Gap → Cursor → Except Fault (Gap × Cursor)
  | 0, gap, c => .ok (gap, c)
  | fuel + 1, gap, c =>
    if isBlank c.head then
      if gap.broken then
        if c.head == '\t' && c.column < indent then .error .tab
        else readGap indent fuel gap (c.skip 1)
      else readGap indent fuel { gap with blanks := c.head :: gap.blanks } (c.skip 1)
    else if isBreak c.head then
      if gap.broken then
        readGap indent fuel { gap with further := c.lineText ++ gap.further } c.skipLine
      else readGap indent fuel ⟨[], c.lineText, gap.further, true⟩ c.skipLine
    else .ok (gap, c)

/-- Whether a plain scalar ends before the next character. -/
def endsPlain (inFlow : Bool) (c : Cursor) : Bool :=
  (c.head == ':' && isBlankOrEnd (c.peek 1)) ||
    (inFlow && (c.head == ',' || c.head == '[' || c.head == ']' || c.head == '\x7b' ||
      c.head == '\x7d'))

/-- A colon right before a flow indicator is refused. -/
def colonBeforeIndicator (inFlow : Bool) (c : Cursor) : Bool :=
  inFlow && c.head == ':' &&
    (c.peek 1 == ',' || c.peek 1 == '?' || c.peek 1 == '[' || c.peek 1 == ']' ||
      c.peek 1 == '\x7b' || c.peek 1 == '\x7d')

/-- Reads the characters of a plain scalar up to the next blank or its end. -/
def readPlainWord (inFlow : Bool) : Nat → List Char → Cursor → Except Fault (List Char × Cursor)
  | 0, text, c => .ok (text, c)
  | fuel + 1, text, c =>
    if isBlankOrEnd c.head then .ok (text, c)
    else if colonBeforeIndicator inFlow c then .error .colonInFlow
    else if endsPlain inFlow c then .ok (text, c)
    else readPlainWord inFlow fuel (c.head :: text) (c.skip 1)

/-- Reads a plain scalar; the flag tells whether it was left on a new line. -/
def readPlain (inFlow : Bool) (indent : Nat) :
    Nat → Gap → List Char → Cursor → Except Fault (List Char × Bool × Cursor)
  | 0, gap, text, c => .ok (text, gap.broken, c)
  | fuel + 1, gap, text, c => do
    if c.atDocumentMark || c.head == '#' then return (text, gap.broken, c)
    else
      let (word, after) ← readPlainWord inFlow (fuel + 1) [] c
      let text := if word.isEmpty then text else word ++ gap.onto text
      let gap := if word.isEmpty then gap else .none
      if !(isBlank after.head || isBreak after.head) then return (text, gap.broken, after)
      else
        let (gap, next) ← readGap indent (fuel + 1) gap after
        if !inFlow && next.column < indent then return (text, gap.broken, next)
        else readPlain inFlow indent fuel gap text next

def plainScalar (inFlow : Bool) (indent : Nat) (c : Cursor) :
    Except Fault (String × Bool × Cursor) := do
  let (text, broken, c) ← readPlain inFlow indent (c.rest.length + 1) .none [] c
  return (String.ofList text.reverse, broken, c)

def hexNumber? (digits : List Char) : Option Nat :=
  digits.foldl
    (fun n d ↦ n.bind fun n ↦ (Decimal.Integer.digitValue? 16 d).map (16 * n + ·)) (some 0)

/-- The character that an escape in double quotes stands for, and the length of the escape. -/
def escaped (c : Cursor) : Except Fault (Char × Nat) :=
  let code (length : Nat) : Except Fault (Char × Nat) :=
    let digits := (c.rest.drop 2).take length
    match hexNumber? digits with
    | some n =>
      if digits.length < length || (0xD800 ≤ n && n ≤ 0xDFFF) || n > 0x10FFFF then .error .escape
      else .ok (Char.ofNat n, length + 2)
    | none => .error .escape
  let plain (n : Nat) : Except Fault (Char × Nat) := .ok (Char.ofNat n, 2)
  match c.peek 1 with
  | '0' => plain 0
  | 'a' => plain 7
  | 'b' => plain 8
  | 't' => plain 9
  | '\t' => plain 9
  | 'n' => plain 10
  | 'v' => plain 11
  | 'f' => plain 12
  | 'r' => plain 13
  | 'e' => plain 27
  | ' ' => plain 32
  | '\"' => plain 34
  | '/' => plain 47
  | '\\' => plain 92
  | 'N' => plain 0x85
  | '_' => plain 0xA0
  | 'L' => plain 0x2028
  | 'P' => plain 0x2029
  | 'x' => code 2
  | 'u' => code 4
  | 'U' => code 8
  | _ => .error .escape

/-- Reads the characters of a quoted scalar up to the next blank or its closing quote. The flag
tells whether it stopped behind an escaped line break. -/
def readQuotedWord (single : Bool) :
    Nat → List Char → Cursor → Except Fault (List Char × Bool × Cursor)
  | 0, text, c => .ok (text, false, c)
  | fuel + 1, text, c =>
    if isBlankOrEnd c.head then .ok (text, false, c)
    else if single then
      if c.head == '\'' then
        if c.peek 1 == '\'' then readQuotedWord single fuel ('\'' :: text) (c.skip 2)
        else .ok (text, false, c)
      else readQuotedWord single fuel (c.head :: text) (c.skip 1)
    else if c.head == '\"' then .ok (text, false, c)
    else if c.head == '\\' then
      if isBreak (c.peek 1) then .ok (text, true, (c.skip 1).skipLine)
      else match escaped c with
        | .ok (char, length) => readQuotedWord single fuel (char :: text) (c.skip length)
        | .error fault => .error fault
    else readQuotedWord single fuel (c.head :: text) (c.skip 1)

/-- Reads a quoted scalar after its opening quote. -/
def readQuoted (single : Bool) : Nat → List Char → Cursor → Except Fault (List Char × Cursor)
  | 0, _, _ => .error .unclosedScalar
  | fuel + 1, text, c => do
    if c.atDocumentMark then .error .documentMark
    else if c.atEnd then .error .unclosedScalar
    else
      let (text, joined, after) ← readQuotedWord single (fuel + 1) text c
      if after.head == (if single then '\'' else '\"') then return (text, after.skip 1)
      else
        let (gap, next) ← readGap 0 (fuel + 1) ⟨[], [], [], joined⟩ after
        readQuoted single fuel (gap.onto text) next

def quotedScalar (single : Bool) (c : Cursor) : Except Fault (String × Cursor) := do
  let (text, c) ← readQuoted single (c.rest.length + 1) [] (c.skip 1)
  return (String.ofList text.reverse, c)

/-- Reads indentation and empty lines before a line of a block scalar. An indentation of zero is
not yet known; the deepest one seen stands in for it. -/
def readBlockBreaks (indent : Nat) :
    Nat → Nat → List Char → Cursor → Except Fault (Nat × List Char × Cursor)
  | 0, deepest, breaks, c => .ok (deepest, breaks, c)
  | fuel + 1, deepest, breaks, c =>
    let blanks := (c.rest.takeWhile (· == ' ')).length
    let c := c.skip (if indent == 0 then blanks else min blanks (indent - c.column))
    let deepest := max deepest c.column
    if (indent == 0 || c.column < indent) && c.head == '\t' then .error .tab
    else if isBreak c.head then
      readBlockBreaks indent fuel deepest (c.lineText ++ breaks) c.skipLine
    else .ok (deepest, breaks, c)

/-- Reads the lines of a block scalar. `lineBreak` is the break that ended the line before, and
`breaks` are the empty lines after it. -/
def readBlockLines (literal : Bool) (indent : Nat) :
    Nat → (afterBlank : Bool) → (text lineBreak breaks : List Char) → Cursor →
      Except Fault (List Char × List Char × List Char × Cursor)
  | 0, _, text, lineBreak, breaks, c => .ok (text, lineBreak, breaks, c)
  | fuel + 1, afterBlank, text, lineBreak, breaks, c => do
    if c.column != indent || c.atEnd then return (text, lineBreak, breaks, c)
    else
      let blank := isBlank c.head
      let folds := !literal && lineBreak == ['\n'] && !afterBlank && !blank
      let text :=
        if folds then (if breaks.isEmpty then ' ' :: text else breaks ++ text)
        else breaks ++ lineBreak ++ text
      let line := c.rest.takeWhile (!isBreakOrEnd ·)
      let c := c.skip line.length
      let lineBreak := c.lineText
      let (_, breaks, c) ← readBlockBreaks indent (fuel + 1) 0 [] c.skipLine
      readBlockLines literal indent fuel blank (line.reverse ++ text) lineBreak breaks c

/-- The header of a block scalar: whether the last breaks are dropped, kept to one or all kept, and
how deep it is indented. -/
structure BlockHeader where
  strip : Bool
  keep : Bool
  increment : Nat

def readBlockHeader (c : Cursor) : Except Fault (BlockHeader × Cursor) :=
  let sign (c : Cursor) : Bool × Bool × Cursor :=
    if c.head == '-' then (true, false, c.skip 1)
    else if c.head == '+' then (false, true, c.skip 1)
    else (false, false, c)
  let digit (c : Cursor) : Except Fault (Nat × Cursor) :=
    if c.head == '0' then .error .blockHeader
    else if c.head.isDigit then .ok (c.head.toNat - '0'.toNat, c.skip 1)
    else .ok (0, c)
  if c.head.isDigit then do
    let (increment, c) ← digit c
    let (strip, keep, c) := sign c
    return (⟨strip, keep, increment⟩, c)
  else do
    let (strip, keep, c) := sign c
    let (increment, c) ← if strip || keep then digit c else .ok (0, c)
    return (⟨strip, keep, increment⟩, c)

/-- Reads a block scalar from its indicator on. -/
def blockScalar (literal : Bool) (parentIndent : Int) (c : Cursor) :
    Except Fault (String × Cursor) := do
  let fuel := c.rest.length + 1
  let (header, c) ← readBlockHeader (c.skip 1)
  let c := c.skipWhile isBlank
  let c := if c.head == '#' then c.skipWhile (!isBreakOrEnd ·) else c
  if !isBreakOrEnd c.head then .error .blockHeader
  else
    let given := if header.increment == 0 then 0 else (max parentIndent 0).toNat + header.increment
    let (deepest, breaks, c) ← readBlockBreaks given fuel 0 [] c.skipLine
    let indent := if given == 0 then max (max deepest (parentIndent + 1).toNat) 1 else given
    let (text, lineBreak, breaks, c) ← readBlockLines literal indent fuel false [] [] breaks c
    let text := if header.strip then text else lineBreak ++ text
    let text := if header.keep then breaks ++ text else text
    return (String.ofList text.reverse, c)

end Playbook.Yaml
