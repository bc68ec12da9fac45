import Playbook.Template.Expression
import Playbook.Text.Blank

/-!
# Tokens of a template

Text outside of marks is one token; between marks there are names, literals and operators. A minus
sign at a mark takes the blanks on its outer side away.
-/

namespace Playbook.Template

inductive Token where
  | text (content : String)
  | printStart
  | printEnd
  | blockStart
  | blockEnd
  | name (text : String)
  | str (text : String)
  | int (value : Nat)
  | float (value : Float)
  | operator (text : String)
  deriving Inhabited

/-- A token and the line on which it starts. -/
structure Placed where
  line : Nat
  token : Token
  deriving Inhabited

namespace Token

def isSpace (c : Char) : Bool :=
  c == ' ' || c == '\t' || c == '\n' || c == '\r' || c == '\x0C'

def isNameStart (c : Char) : Bool :=
  c.isAlpha || c == '_'

def isNameChar (c : Char) : Bool :=
  c.isAlphanum || c == '_'

def lineBreaks (chars : List Char) : Nat :=
  chars.count '\n'

/-- The kinds of marks that start after text. -/
inductive Mark where
  | print
  | block
  | comment

/-- Text before the next opening mark, the mark and what follows it. -/
def untilMark : List Char → List Char × Option (Mark × List Char)
  | '\x7b' :: '\x7b' :: rest => ([], some (.print, rest))
  | '\x7b' :: '%' :: rest => ([], some (.block, rest))
  | '\x7b' :: '#' :: rest => ([], some (.comment, rest))
  | c :: rest =>
    let (before, mark) := untilMark rest
    (c :: before, mark)
  | [] => ([], none)

/-- A sign that stands inside a mark: the flag tells whether it is a minus. -/
def sign : List Char → Bool × List Char
  | '-' :: rest => (true, rest)
  | '+' :: rest => (false, rest)
  | rest => (false, rest)

def dropWord (word chars : List Char) : Option (List Char) :=
  if word.isPrefixOf chars then some (chars.drop word.length) else none

/-- A block that consists of one word: whether signs stand at its start and its end, and what
follows it. -/
def wordBlock? (word : String) (chars : List Char) : Option (Bool × Bool × List Char) :=
  let (before, rest) := sign chars
  (dropWord word.toList (rest.dropWhile isSpace)).bind fun rest ↦
    let (after, rest) := sign (rest.dropWhile isSpace)
    (dropWord ['%', '\x7d'] rest).map fun rest ↦ (before, after, rest)

/-- Text up to the end of a raw block; the flags are those of `wordBlock?`. -/
def untilEndRaw : List Char → Option (List Char × Bool × Bool × List Char)
  | [] => none
  | c :: rest =>
    let here := if c == '\x7b' then
        match rest with
        | '%' :: inside => wordBlock? "endraw" inside
        | _ => none
      else none
    match here with
    | some (before, after, rest) => some ([], before, after, rest)
    | none => (untilEndRaw rest).map fun (content, found) ↦ (c :: content, found)

/-- What follows the end of a comment, and whether a minus stands before it; `minus` tells that of
the character just read. -/
def afterComment (minus : Bool) : List Char → Option (Bool × List Char)
  | [] => none
  | '#' :: '\x7d' :: rest => some (minus, rest)
  | c :: rest => afterComment (c == '-') rest

def hexDigits? (chars : List Char) : Option Nat :=
  chars.foldl (fun n c ↦
    n.bind fun n ↦ (Decimal.Integer.digitValue? 16 c).map (16 * n + ·)) (some 0)

def isHighSurrogate (n : Nat) : Bool :=
  0xD800 ≤ n && n < 0xDC00

def isLowSurrogate (n : Nat) : Bool :=
  0xDC00 ≤ n && n < 0xE000

def escaped? : Char → Option Char
  | '\\' => some '\\'
  | '\"' => some '\"'
  | '\'' => some '\''
  | '/' => some '/'
  | 'b' => some '\x08'
  | 'f' => some '\x0C'
  | 'n' => some '\n'
  | 'r' => some '\r'
  | 't' => some '\t'
  | _ => none

/-- The content of a string literal with its escapes replaced. The high half of a character that is
written as two halves is handed on until its other half is read. -/
def unescape (high : Option Nat) : List Char → Option (List Char)
  | '\\' :: 'u' :: a :: b :: c :: d :: rest =>
    (hexDigits? [a, b, c, d]).bind fun n ↦
      match high with
      | some high =>
        if isLowSurrogate n then
          (unescape none rest).map
            (Char.ofNat (0x10000 + (high - 0xD800) * 0x400 + (n - 0xDC00)) :: ·)
        else none
      | none =>
        if isHighSurrogate n then unescape (some n) rest
        else if isLowSurrogate n then none
        else (unescape none rest).map (Char.ofNat n :: ·)
  | rest =>
    if high.isSome then none
    else match rest with
      | [] => some []
      | ['\\'] => none
      | '\\' :: c :: rest => (escaped? c).bind fun d ↦ (unescape none rest).map (d :: ·)
      | c :: rest => (unescape none rest).map (c :: ·)

/-- The raw content of a string literal, and what follows its closing quote. -/
def untilQuote (quote : Char) : List Char → Option (List Char × List Char)
  | [] => none
  | '\\' :: c :: rest => (untilQuote quote rest).map fun (raw, rest) ↦ ('\\' :: c :: raw, rest)
  | c :: rest =>
    if c == quote then some ([], rest)
    else (untilQuote quote rest).map fun (raw, rest) ↦ (c :: raw, rest)

/-- The parts of a number as it is read from the left. -/
inductive Phase where
  | whole
  | based
  | fraction
  | exponent
  | exponentDigits
  deriving DecidableEq

def advance? (hexadecimal : Bool) (phase : Phase) (c : Char) : Option Phase :=
  if c == '.' && phase == .whole then some .fraction
  else if (c == 'e' || c == 'E') && (phase == .whole || phase == .fraction) then some .exponent
  else if (c == '+' || c == '-') && phase == .exponent then some .exponentDigits
  else if c.isDigit then some (if phase == .exponent then .exponentDigits else phase)
  else if hexadecimal && phase == .based && (Decimal.Integer.digitValue? 16 c).isSome then
    some phase
  else if c == '_' then some phase
  else none

/-- The characters of a number, and the part in which it ends. -/
def numberRun (hexadecimal : Bool) (phase : Phase) : List Char → List Char × Phase × List Char
  | [] => ([], phase, [])
  | c :: rest =>
    match advance? hexadecimal phase c with
    | some next =>
      let (run, last, rest) := numberRun hexadecimal next rest
      (c :: run, last, rest)
    | none => ([], phase, c :: rest)

def base (chars : List Char) : Nat × List Char :=
  match chars with
  | '0' :: 'b' :: rest => (2, rest)
  | '0' :: 'B' :: rest => (2, rest)
  | '0' :: 'o' :: rest => (8, rest)
  | '0' :: 'O' :: rest => (8, rest)
  | '0' :: 'x' :: rest => (16, rest)
  | '0' :: 'X' :: rest => (16, rest)
  | rest => (10, rest)

def number? (chars : List Char) : Option (Token × List Char) :=
  let (radix, digits) := base chars
  let start := if radix == 10 then Phase.whole else .based
  let (run, phase, rest) := numberRun (radix == 16) start digits
  if run.getLast? == some '_' then none
  else
    let run := run.filter (· != '_')
    if phase == .whole || phase == .based then
      match Decimal.Integer.parse radix 0 (Nat.pow 2 128 - 1) run with
      | .ok value => some (.int value.toNat, rest)
      | .error _ => none
    else (Decimal.float? run).map fun value ↦ (.float value, rest)

/-- The operators, longer ones first. -/
def operators : List (List Char) :=
  [['/', '/'], ['*', '*'], ['=', '='], ['!', '='], ['>', '='], ['<', '=']] ++
    ['+', '-', '*', '/', '%', '.', ',', ':', '~', '|', '=', '>', '<', '(', ')', '[', ']', '\x7b',
      '\x7d'].map ([·])

def balanceOf (operator : List Char) : Int :=
  if operator ∈ [['('], ['['], ['\x7b']] then 1
  else if operator ∈ [[')'], [']'], ['\x7d']] then -1 else 0

/-- The closing mark at the head of a text, with the sign before it. -/
def closing? (mark chars : List Char) : Option (Bool × List Char) :=
  let (minus, rest) := sign chars
  (dropWord mark rest).map fun rest ↦ (minus, rest)

/-- Prepends a token to the tokens that follow. -/
def placed (line : Nat) (token : Token) (rest : Except Fault (List Placed)) :
    Except Fault (List Placed) :=
  rest.map (⟨line, token⟩ :: ·)

/-- Prepends text, unless there is none. -/
def placedText (line : Nat) (text : List Char) (rest : Except Fault (List Placed)) :
    Except Fault (List Placed) :=
  if text.isEmpty then rest else placed line (.text (String.ofList text)) rest

mutual

/-- Reads text outside of marks; `trim` takes the blanks at its start away. -/
def scanText : Nat → (line : Nat) → (trim : Bool) → List Char → Except Fault (List Placed)
  | 0, line, _, _ => .error (.badText line "unexpected end of input")
  | fuel + 1, line, trim, chars =>
    let (before, mark) := untilMark chars
    let kept := if trim then Text.trimStart before else before
    let lineThere := line + lineBreaks before
    match mark with
    | none => placedText line kept (.ok [])
    | some (mark, rest) =>
      let (minus, inside) := sign rest
      let kept := if minus then Text.trimEnd kept else kept
      match mark with
      | .comment =>
        match afterComment false rest with
        | none => .error (.badText lineThere "unexpected end of comment")
        | some (trimNext, after) =>
          let length := rest.length - after.length
          placedText line kept
            (scanText fuel (lineThere + lineBreaks (rest.take length)) trimNext after)
      | .print =>
        placedText line kept
          (placed lineThere .printStart (scanInside fuel lineThere false 0 inside))
      | .block =>
        match wordBlock? "raw" rest with
        | none =>
          placedText line kept
            (placed lineThere .blockStart (scanInside fuel lineThere true 0 inside))
        | some (_, trimRaw, raw) =>
          match untilEndRaw raw with
          | none => .error (.badText lineThere "unexpected end of raw block")
          | some (content, trimEnd, trimNext, after) =>
            let shown := if trimRaw then Text.trimStart content else content
            let shown := if trimEnd then Text.trimEnd shown else shown
            placedText line kept (placedText lineThere shown
              (scanText fuel (lineThere + lineBreaks content) trimNext after))

/-- Reads between marks; only where all brackets are closed may the closing mark stand. -/
def scanInside : Nat → (line : Nat) → (block : Bool) → (balance : Int) → List Char →
    Except Fault (List Placed)
  | 0, line, _, _, _ => .error (.badText line "unexpected end of input")
  | fuel + 1, line, block, balance, chars =>
    let spaces := chars.takeWhile isSpace
    let line := line + lineBreaks spaces
    let chars := chars.drop spaces.length
    let closing := if balance == 0 then
        closing? (if block then ['%', '\x7d'] else ['\x7d', '\x7d']) chars
      else none
    match closing with
    | some (trim, rest) =>
      placed line (if block then .blockEnd else .printEnd) (scanText fuel line trim rest)
    | none =>
      match chars with
      | [] => .ok []
      | c :: rest =>
        if c == '\'' || c == '\"' then
          match untilQuote c rest with
          | none => .error (.badText line "unexpected end of string")
          | some (raw, after) =>
            match unescape none raw with
            | none => .error (.badText line "bad string escape")
            | some content =>
              placed line (.str (String.ofList content))
                (scanInside fuel (line + lineBreaks raw) block balance after)
        else if c.isDigit then
          match number? chars with
          | none => .error (.badText line "invalid number")
          | some (token, rest) => placed line token (scanInside fuel line block balance rest)
        else if isNameStart c then
          let word := chars.takeWhile isNameChar
          placed line (.name (String.ofList word))
            (scanInside fuel line block balance (chars.drop word.length))
        else match operators.find? (·.isPrefixOf chars) with
          | some found =>
            placed line (.operator (String.ofList found))
              (scanInside fuel line block (balance + balanceOf found) (chars.drop found.length))
          | none => .error (.badText line "unexpected character")

end

def scan (text : String) : Except Fault (List Placed) :=
  let chars := text.toList
  scanText (2 * chars.length + 2) 1 false chars

end Token

end Playbook.Template
