import Playbook.Shell.Token

/-!
# Reading a command line

`Command.parse` reads the tokens of a command line into a command. A list ends at a word that
closes the construct around it.
-/

namespace Playbook.Shell

def plainWord? : Word → Option String
  | [.literal text false] => some text
  | _ => none

def closers : List String := ["then", "elif", "else", "fi", "do", "done", "\x7d", "esac"]

def Token.describe : Token → String
  | .word _ parts => (plainWord? parts).getD ""
  | .operator _ "\n" => "newline"
  | .operator _ text => text
  | .redirect .. => ">"

def Token.line? : Token → Option Nat
  | .word line _ => some line
  | .operator line _ => some line
  | .redirect .. => none

/-- The fault of tokens that do not go on as they should; where there are none, the command line
ends too early. -/
def unexpected {α : Type} : List Token → Except Fault α
  | [] => .error .unfinished
  | token :: _ => .error (.unexpected ((token.line?).getD 1) token.describe)

def keyword? : List Token → Option String
  | .word _ parts :: _ => plainWord? parts
  | _ => none

def skipBreaks : List Token → List Token
  | .operator line text :: rest =>
    if text == "\n" || text == ";" then skipBreaks rest else .operator line text :: rest
  | tokens => tokens

def skipLines : List Token → List Token
  | .operator line text :: rest =>
    if text == "\n" then skipLines rest else .operator line text :: rest
  | tokens => tokens

def expect (word : String) (tokens : List Token) : Except Fault (List Token) :=
  match tokens with
  | .word line parts :: rest =>
    if plainWord? parts == some word then .ok rest else unexpected (.word line parts :: rest)
  | tokens => unexpected tokens

/-- Whether a list ends here. -/
def endsList (tokens : List Token) : Bool :=
  match tokens with
  | [] => true
  | .operator _ ")" :: _ => true
  | .operator _ ";;" :: _ => true
  | tokens => (keyword? tokens).any (· ∈ closers)

def assignment? : Word → Option (String × Word)
  | .literal text false :: rest =>
    let chars := text.toList
    let name := chars.takeWhile isNameChar
    match chars.drop name.length with
    | '=' :: value =>
      if isName name then
        some (String.ofList name,
          if value.isEmpty then rest else .literal (String.ofList value) false :: rest)
      else none
    | _ => none
  | _ => none

def readRedirections : List Redirection → List Token → List Redirection × List Token
  | earlier, .redirect stream kind :: .word _ target :: rest =>
    readRedirections (⟨stream.getD 1, kind, target⟩ :: earlier) rest
  | earlier, tokens => (earlier.reverse, tokens)

/-- Reads the assignments, words and redirections of a simple command, all held last first. -/
def readSimple (line : Nat) (assignments : List (String × Word)) (words : List Word)
    (redirections : List Redirection) : List Token → Except Fault (Command × List Token)
  | .redirect stream kind :: .word _ target :: rest =>
    readSimple line assignments words (⟨stream.getD 1, kind, target⟩ :: redirections) rest
  | .redirect _ _ :: rest => unexpected rest
  | .word _ parts :: rest =>
    match if words.isEmpty then assignment? parts else none with
    | some assignment => readSimple line (assignment :: assignments) words redirections rest
    | none => readSimple line assignments (parts :: words) redirections rest
  | tokens =>
    .ok (.simple line assignments.reverse words.reverse redirections.reverse, tokens)

/-- Reads the patterns of a clause up to the closing bracket. -/
def readPatterns : (earlier : List Word) → List Token → Except Fault (List Word × List Token)
  | earlier, .word _ parts :: .operator _ "|" :: rest => readPatterns (parts :: earlier) rest
  | earlier, .word _ parts :: .operator _ ")" :: rest => .ok ((parts :: earlier).reverse, rest)
  | _, .word _ _ :: rest => unexpected rest
  | _, tokens => unexpected tokens

/-- Reads the words of a condition in double brackets; operators are words there. -/
def readCondition : (earlier : List Word) → List Token → Except Fault (List Word × List Token)
  | earlier, .word _ parts :: rest =>
    if plainWord? parts == some "]]" then .ok ((parts :: earlier).reverse, rest)
    else readCondition (parts :: earlier) rest
  | earlier, .operator _ text :: rest => readCondition ([.literal text true] :: earlier) rest
  | earlier, .redirect _ kind :: rest =>
    readCondition ([.literal (if kind == .read then "<" else ">") true] :: earlier) rest
  | _, [] => .error .unfinished

def readWords : List Word → List Token → List Word × List Token
  | earlier, .word _ parts :: rest => readWords (parts :: earlier) rest
  | earlier, tokens => (earlier.reverse, tokens)

mutual

def readList : Nat → List Token → Except Fault (Command × List Token)
  | 0, tokens => unexpected tokens
  | fuel + 1, tokens => do
    let (first, tokens) ← readAndOr fuel tokens
    let next := match tokens with
      | .operator _ text :: rest => if text ∈ [";", "&", "\n"] then skipLines rest else tokens
      | tokens => tokens
    if endsList next || next.length == tokens.length then return (first, next)
    else
      let (second, tokens) ← readList fuel next
      return (.seq first second, tokens)

def readAndOr : Nat → List Token → Except Fault (Command × List Token)
  | 0, tokens => unexpected tokens
  | fuel + 1, tokens => do
    let (first, tokens) ← readPipeline fuel tokens
    readAndOrFrom fuel first tokens

def readAndOrFrom : Nat → Command → List Token → Except Fault (Command × List Token)
  | 0, _, tokens => unexpected tokens
  | fuel + 1, first, tokens =>
    match tokens with
    | .operator line text :: rest =>
      if text == "&&" || text == "||" then do
        let (second, tokens) ← readPipeline fuel (skipLines rest)
        let joined := if text == "&&" then Command.both first second else .either first second
        readAndOrFrom fuel joined tokens
      else .ok (first, .operator line text :: rest)
    | tokens => .ok (first, tokens)

def readPipeline : Nat → List Token → Except Fault (Command × List Token)
  | 0, tokens => unexpected tokens
  | fuel + 1, tokens =>
    if keyword? tokens == some "!" then do
      let (command, tokens) ← readPipeline fuel (tokens.drop 1)
      return (.negated command, tokens)
    else do
      let (first, tokens) ← readCommand fuel tokens
      match tokens with
      | .operator _ "|" :: rest =>
        let (second, tokens) ← readPipeline fuel (skipLines rest)
        return (.pipe first second, tokens)
      | tokens => return (first, tokens)

def readCommand : Nat → List Token → Except Fault (Command × List Token)
  | 0, tokens => unexpected tokens
  | fuel + 1, tokens =>
    match tokens with
    | .operator _ "(" :: rest => do
      let (body, tokens) ← readList fuel (skipBreaks rest)
      match tokens with
      | .operator _ ")" :: rest =>
        let (redirections, tokens) := readRedirections [] rest
        return (.group body true redirections, tokens)
      | tokens => unexpected tokens
    | .word line parts :: rest =>
      let keyword := (plainWord? parts).getD ""
      if keyword == "\x7b" then do
        let (body, tokens) ← readList fuel (skipBreaks rest)
        let tokens ← expect "\x7d" tokens
        let (redirections, tokens) := readRedirections [] tokens
        return (.group body false redirections, tokens)
      else if keyword == "while" || keyword == "until" then do
        let (condition, tokens) ← readList fuel (skipLines rest)
        let (body, tokens) ← readList fuel (skipBreaks (← expect "do" tokens))
        let (redirections, tokens) := readRedirections [] (← expect "done" tokens)
        return (.cycle condition body (keyword == "until") redirections, tokens)
      else if keyword == "if" then readBranch fuel rest
      else if keyword == "for" then
        match rest with
        | .word _ [.literal name false] :: rest => do
          let rest ← expect "in" (skipBreaks rest)
          let (words, tokens) := readWords [] rest
          let (body, tokens) ← readList fuel (skipBreaks (← expect "do" (skipBreaks tokens)))
          let (redirections, tokens) := readRedirections [] (← expect "done" tokens)
          return (.each name words body redirections, tokens)
        | rest => unexpected rest
      else if keyword == "[[" then do
        let (words, tokens) ← readCondition [parts] rest
        return (.simple line [] words [], tokens)
      else if keyword == "case" then
        match rest with
        | .word _ subject :: rest => do
          let rest ← expect "in" (skipLines rest)
          let (clauses, tokens) ← readClauses fuel (skipLines rest)
          return (.choose subject clauses, tokens)
        | rest => unexpected rest
      else if keyword == "function" then
        match rest with
        | .word _ [.literal name false] :: .operator _ "(" :: .operator _ ")" :: rest =>
          readFunction fuel name rest
        | .word _ [.literal name false] :: rest => readFunction fuel name rest
        | rest => unexpected rest
      else if keyword ∈ closers then unexpected tokens
      else match rest with
        | .operator _ "(" :: .operator _ ")" :: rest => readFunction fuel keyword rest
        | .operator _ "(" :: [] => .error (.unexpected line "newline")
        | .operator _ "(" :: rest =>
          if keyword == "" then readSimple line [] [] [] tokens else unexpected rest
        | _ => readSimple line [] [] [] tokens
    | .redirect .. :: _ => readSimple 1 [] [] [] tokens
    | tokens => unexpected tokens

def readFunction : Nat → (name : String) → List Token → Except Fault (Command × List Token)
  | 0, _, tokens => unexpected tokens
  | fuel + 1, name, tokens => do
    let (body, tokens) ← readCommand fuel (skipLines tokens)
    return (.define name body, tokens)

/-- Reads the clauses of a choice to its end. -/
def readClauses : Nat → List Token → Except Fault (List (List Word × Command) × List Token)
  | 0, tokens => unexpected tokens
  | fuel + 1, tokens => do
    if keyword? tokens == some "esac" then return ([], tokens.drop 1)
    else
      let tokens := match tokens with
        | .operator _ "(" :: rest => rest
        | tokens => tokens
      let (patterns, tokens) ← readPatterns [] tokens
      let tokens := skipLines tokens
      let (body, tokens) ←
        if endsList tokens then pure (Command.nothing, tokens) else readList fuel tokens
      match tokens with
      | .operator _ ";;" :: rest =>
        let (more, tokens) ← readClauses fuel (skipLines rest)
        return ((patterns, body) :: more, tokens)
      | tokens => return ([(patterns, body)], ← expect "esac" tokens)

/-- Reads a branch after `if` or `elif`. -/
def readBranch : Nat → List Token → Except Fault (Command × List Token)
  | 0, tokens => unexpected tokens
  | fuel + 1, tokens => do
    let (condition, tokens) ← readList fuel (skipLines tokens)
    let (yes, tokens) ← readList fuel (skipBreaks (← expect "then" tokens))
    if keyword? tokens == some "elif" then
      let (no, tokens) ← readBranch fuel (tokens.drop 1)
      return (.branch condition yes (some no) [], tokens)
    else if keyword? tokens == some "else" then
      let (no, tokens) ← readList fuel (skipBreaks (tokens.drop 1))
      let (redirections, tokens) := readRedirections [] (← expect "fi" tokens)
      return (.branch condition yes (some no) redirections, tokens)
    else
      let (redirections, tokens) := readRedirections [] (← expect "fi" tokens)
      return (.branch condition yes none redirections, tokens)

end

/-- The command of a whole command line; a blank one does nothing. -/
def Command.parse (text : String) : Except Fault Command := do
  let tokens := skipLines (← Token.scan text)
  if tokens.isEmpty then return .nothing
  else
    let (command, rest) ← readList (8 * tokens.length + 8) tokens
    if rest.isEmpty then return command else unexpected rest

end Playbook.Shell
