import Playbook.Shell.Printing
import Playbook.Shell.Syntax

/-!
# Tokens of a command line

`Token.scan` splits a command line into words and operators and reads the quoting inside words.
-/

namespace Playbook.Shell

def isMeta (c : Char) : Bool :=
  c ∈ [' ', '\t', '\n', ';', '&', '|', '(', ')', '<', '>']

def isNameChar (c : Char) : Bool :=
  c.isAlphanum || c == '_'

def isNameStart (c : Char) : Bool :=
  c.isAlpha || c == '_'

def isName (text : List Char) : Bool :=
  text.head?.any isNameStart && text.all isNameChar

/-- Takes characters up to the closing mark of a nested construct and steps over the mark; quotes
hide marks. -/
def takeNested (open_ close : Char) :
    Nat → (depth : Nat) → (taken : List Char) → List Char → Option (List Char × List Char)
  | 0, _, _, _ => none
  | _, _, _, [] => none
  | fuel + 1, depth, taken, c :: rest =>
    if c == '\\' then
      match rest with
      | d :: more => takeNested open_ close fuel depth (d :: c :: taken) more
      | [] => none
    else if c == '\'' || c == '\"' then
      let inside := rest.takeWhile (· != c)
      match rest.drop inside.length with
      | [] => none
      | q :: more => takeNested open_ close fuel depth (q :: inside.reverse ++ c :: taken) more
    else if c == close then
      if depth == 0 then some (taken.reverse, rest)
      else takeNested open_ close fuel (depth - 1) (c :: taken) rest
    else takeNested open_ close fuel (if c == open_ then depth + 1 else depth) (c :: taken) rest

/-- Takes characters up to the next backquote. -/
def takeBackquoted : (taken : List Char) → List Char → Option (List Char × List Char)
  | _, [] => none
  | taken, '\x60' :: rest => some (taken.reverse, rest)
  | taken, '\\' :: c :: rest =>
    if c ∈ ['\x60', '$', '\\'] then takeBackquoted (c :: taken) rest
    else takeBackquoted (c :: '\\' :: taken) rest
  | taken, c :: rest => takeBackquoted (c :: taken) rest

def specialNames : List Char := ['?', '#', '$', '!', '@', '*', '-']

/-- The variable, operator and argument between the braces of an expansion. -/
def bracedPart (quoted : Bool) (inside : List Char) : Part :=
  match inside with
  | '#' :: d :: rest => .parameter (String.ofList (d :: rest)) "length" "" quoted
  | _ =>
    let name := match inside with
      | c :: _ => if isNameStart c then inside.takeWhile isNameChar
        else if c.isDigit then inside.takeWhile Char.isDigit else [c]
      | [] => []
    let rest := inside.drop name.length
    let operator := match rest with
      | ':' :: c :: _ => if c ∈ ['-', '=', '+', '?'] then [':', c] else [':']
      | '#' :: '#' :: _ => ['#', '#']
      | '%' :: '%' :: _ => ['%', '%']
      | '/' :: '/' :: _ => ['/', '/']
      | '^' :: '^' :: _ => ['^', '^']
      | ',' :: ',' :: _ => [',', ',']
      | c :: _ => [c]
      | [] => []
    .parameter (String.ofList name) (String.ofList operator)
      (String.ofList (rest.drop operator.length)) quoted

/-- Reads what follows a dollar sign. -/
def readDollar (line : Nat) (quoted : Bool) (text : List Char) : Except Fault (Part × List Char) :=
  let fuel := text.length + 1
  match text with
  | '(' :: '(' :: rest =>
    match takeNested '(' ')' fuel 0 [] rest with
    | some (inside, ')' :: rest) => .ok (.arithmetic (String.ofList inside), rest)
    | _ => .error (.unclosed line ")")
  | '(' :: rest =>
    match takeNested '(' ')' fuel 0 [] rest with
    | some (inside, rest) => .ok (.substitution (String.ofList inside) quoted, rest)
    | none => .error (.unclosed line ")")
  | '\x7b' :: rest =>
    match takeNested '\x7b' '\x7d' fuel 0 [] rest with
    | some (inside, rest) => .ok (bracedPart quoted inside, rest)
    | none => .error (.unclosed line "\x7d")
  | c :: rest =>
    if isNameStart c then
      let name := text.takeWhile isNameChar
      .ok (.parameter (String.ofList name) "" "" quoted, text.drop name.length)
    else if c.isDigit || c ∈ specialNames then .ok (.parameter c.toString "" "" quoted, rest)
    else .ok (.literal "$" quoted, text)
  | [] => .ok (.literal "$" quoted, [])

/-- Reads the inside of double quotes, or a text given `here` that ends by itself; `parts` are held
last first. -/
def readQuoted (here : Bool) : Nat → (line : Nat) → (parts : List Part) → List Char →
    Except Fault (List Part × Nat × List Char)
  | 0, line, _, _ => .error (.unclosed line "\"")
  | fuel + 1, line, parts, text =>
    match text with
    | [] => if here then .ok (parts, line, []) else .error (.unclosed line "\"")
    | '\\' :: '\n' :: rest => readQuoted here fuel (line + 1) parts rest
    | '\\' :: c :: rest =>
      let kept := if c ∈ ['$', '\x60', '\\'] || (c == '\"' && !here) then [c] else ['\\', c]
      readQuoted here fuel line (.literal (String.ofList kept) true :: parts) rest
    | '$' :: rest =>
      match readDollar line true rest with
      | .ok (part, rest) => readQuoted here fuel line (part :: parts) rest
      | .error fault => .error fault
    | '\x60' :: rest =>
      match takeBackquoted [] rest with
      | some (inside, rest) =>
        readQuoted here fuel line (.substitution (String.ofList inside) true :: parts) rest
      | none => .error (.unclosed line "`")
    | c :: rest =>
      if c == '\"' && !here then .ok (parts, line, rest)
      else
        readQuoted here fuel (if c == '\n' then line + 1 else line)
          (.literal c.toString true :: parts) rest

/-- Characters up to a closing quote before which backslashes hide quotes. -/
def takeEscaped : List Char → Option (List Char × List Char)
  | [] => none
  | '\\' :: c :: rest =>
    (takeEscaped rest).map fun (inside, rest) ↦ ('\\' :: c :: inside, rest)
  | c :: rest =>
    if c == '\'' then some ([], rest)
    else (takeEscaped rest).map fun (inside, rest) ↦ (c :: inside, rest)

/-- Reads a word to its end; `parts` are held last first. -/
def readWord : Nat → (line : Nat) → (parts : List Part) → List Char →
    Except Fault (List Part × Nat × List Char)
  | 0, line, parts, text => .ok (parts, line, text)
  | fuel + 1, line, parts, text =>
    match text with
    | [] => .ok (parts, line, [])
    | '\\' :: '\n' :: rest => readWord fuel (line + 1) parts rest
    | '\\' :: c :: rest => readWord fuel line (.literal c.toString true :: parts) rest
    | '\'' :: rest =>
      let inside := rest.takeWhile (· != '\'')
      match rest.drop inside.length with
      | [] => .error (.unclosed line "'")
      | _ :: more =>
        let part := Part.literal (String.ofList inside) true
        readWord fuel (line + inside.count '\n') (part :: parts) more
    | '\"' :: rest =>
      match readQuoted false (rest.length + 1) line (.literal "" true :: parts) rest with
      | .ok (parts, line, rest) => readWord fuel line parts rest
      | .error fault => .error fault
    | '$' :: '\'' :: rest =>
      match takeEscaped rest with
      | none => .error (.unclosed line "'")
      | some (inside, rest) =>
        let content := Text.Utf8.lossy (Printing.unescape (inside.length + 1) inside)
        readWord fuel line (.literal content true :: parts) rest
    | '$' :: rest =>
      match readDollar line false rest with
      | .ok (part, rest) => readWord fuel line (part :: parts) rest
      | .error fault => .error fault
    | '\x60' :: rest =>
      match takeBackquoted [] rest with
      | some (inside, rest) =>
        readWord fuel line (.substitution (String.ofList inside) false :: parts) rest
      | none => .error (.unclosed line "`")
    | c :: rest =>
      if isMeta c then .ok (parts, line, text)
      else readWord fuel line (.literal c.toString false :: parts) rest

/-- Joins neighbouring literals of the same quoting. -/
def joinLiterals : List Part → List Part
  | .literal a p :: rest =>
    match joinLiterals rest with
    | .literal b q :: more =>
      if p == q then .literal (a ++ b) p :: more else .literal a p :: .literal b q :: more
    | more => .literal a p :: more
  | part :: rest => part :: joinLiterals rest
  | [] => []

/-- The operator at the head of a text. -/
def operator? : List Char → Option (String × List Char)
  | '&' :: '&' :: rest => some ("&&", rest)
  | '|' :: '|' :: rest => some ("||", rest)
  | ';' :: ';' :: rest => some (";;", rest)
  | c :: rest => if c ∈ [';', '&', '|', '(', ')'] then some (c.toString, rest) else none
  | [] => none

def redirect? : List Char → Option (Redirect × Nat × List Char)
  | '>' :: '>' :: rest => some (.append, 1, rest)
  | '>' :: '&' :: rest => some (.duplicate, 1, rest)
  | '>' :: '|' :: rest => some (.write, 1, rest)
  | '>' :: rest => some (.write, 1, rest)
  | '<' :: rest => some (.read, 0, rest)
  | '&' :: '>' :: rest => some (.both, 1, rest)
  | _ => none

/-- A redirection at the head of a text, perhaps with the number of its stream. -/
def numbered? (text : List Char) : Option (Nat × Redirect × List Char) :=
  let digits := text.takeWhile Char.isDigit
  (redirect? (text.drop digits.length)).bind fun (kind, stream, rest) ↦
    if digits.isEmpty then some (stream, kind, rest)
    else if kind == .both then none
    else some (digits.foldl (fun n d ↦ 10 * n + (d.toNat - '0'.toNat)) 0, kind, rest)

def isBlank (c : Char) : Bool :=
  c == ' ' || c == '\t'

/-- The word with all of its parts quoted, so that it makes one field. -/
def quoteAll (word : Word) : Word :=
  word.map fun part ↦ match part with
    | .literal text _ => .literal text true
    | .parameter name operator argument _ => .parameter name operator argument true
    | .substitution source _ => .substitution source true
    | part => part

/-- Takes lines up to one that is the end mark; blanks before lines may be dropped. -/
def takeLines (mark : String) (dropTabs : Bool) : (fuel : Nat) → List Char → List Char × List Char
  | 0, text => ([], text)
  | _, [] => ([], [])
  | fuel + 1, text =>
    let line := text.takeWhile (· != '\n')
    let rest := text.drop (line.length + 1)
    let line := if dropTabs then line.dropWhile (· == '\t') else line
    if String.ofList line == mark then ([], rest)
    else
      let (body, rest) := takeLines mark dropTabs fuel rest
      (line ++ '\n' :: body, rest)

/-- Reads an input that is given in the command line itself, after its operator: the word that
holds it, and the command line without it. -/
def readHere (line : Nat) (text : List Char) : Except Fault (Word × List Char) := do
  let dropTabs := text.head? == some '-'
  let start := (if dropTabs then text.drop 1 else text).dropWhile isBlank
  let (parts, _, rest) ← readWord (start.length + 1) line [] start
  let mark := String.join (parts.reverse.map fun part ↦ match part with
    | .literal text _ => text
    | _ => "")
  let quoted := parts.any fun part ↦ match part with
    | .literal _ quoted => quoted
    | _ => false
  let command := rest.takeWhile (· != '\n')
  let (body, after) :=
    takeLines mark dropTabs (rest.length + 1) (rest.drop (command.length + 1))
  let left := if after.isEmpty then command else command ++ '\n' :: after
  if quoted then return ([.literal (String.ofList body) true], left)
  else
    let (parts, _, _) ← readQuoted true (body.length + 1) line [] body
    return (parts.reverse, left)

/-- An arithmetic command in double brackets, read after the opening ones. -/
def arithmeticCommand? (text : List Char) : Option (String × List Char) :=
  match takeNested '(' ')' (text.length + 1) 0 [] text with
  | some (inside, ')' :: rest) => some (String.ofList inside, rest)
  | _ => none

def scanFrom : Nat → (line : Nat) → List Char → Except Fault (List Token)
  | 0, _, _ => .ok []
  | fuel + 1, line, text =>
    match text with
    | [] => .ok []
    | '\n' :: rest => (scanFrom fuel (line + 1) rest).map (.operator line "\n" :: ·)
    | '\\' :: '\n' :: rest => scanFrom fuel (line + 1) rest
    | '#' :: rest => scanFrom fuel line (rest.dropWhile (· != '\n'))
    | '<' :: '<' :: '<' :: rest => do
      let start := rest.dropWhile isBlank
      let (parts, after, rest) ← readWord (start.length + 1) line [] start
      let word := quoteAll parts.reverse ++ [.literal "\n" true]
      return .redirect (some 0) .text :: .word line word :: (← scanFrom fuel after rest)
    | '<' :: '<' :: rest => do
      let (word, rest) ← readHere line rest
      return .redirect (some 0) .text :: .word line word :: (← scanFrom fuel line rest)
    | c :: rest =>
      if isBlank c then scanFrom fuel line rest
      else
        let isArithmetic := c == '(' && rest.head? == some '('
        match if isArithmetic then arithmeticCommand? (rest.drop 1) else none with
        | some (inside, rest) =>
          (scanFrom fuel line rest).map fun tokens ↦
            .word line [.literal "let" false] :: .word line [.literal inside true] :: tokens
        | none =>
          match numbered? text with
          | some (stream, kind, rest) =>
            (scanFrom fuel line rest).map (.redirect (some stream) kind :: ·)
          | none =>
            match operator? text with
            | some (name, rest) => (scanFrom fuel line rest).map (.operator line name :: ·)
            | none =>
              match readWord (text.length + 1) line [] text with
              | .error fault => .error fault
              | .ok (parts, after, rest) =>
                (scanFrom fuel after rest).map (.word line (joinLiterals parts.reverse) :: ·)

def Token.scan (text : String) : Except Fault (List Token) :=
  let chars := text.toList
  scanFrom (chars.length + 1) 1 chars

end Playbook.Shell
