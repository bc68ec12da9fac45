import Playbook.Template.Token

/-!
# Reading a template

`Template.parse` reads the tokens of a template into pieces. Operators bind in the order given by
the functions below, the loosest first; filters and tests bind tighter than any operator between
two operands.
-/

namespace Playbook.Template

namespace Reading

/-- What was read, and the tokens that are left. -/
abbrev Tokens := List Placed

def lineOf (tokens : Tokens) : Nat :=
  match tokens with
  | [] => 1
  | placed :: _ => placed.line

def unexpected {α : Type} (tokens : Tokens) : Except Fault α :=
  match tokens with
  | [] => .error (.badText 1 "unexpected end of input")
  | placed :: _ => .error (.badText placed.line "unexpected token")

def isOperator (text : String) (tokens : Tokens) : Bool :=
  match tokens with
  | ⟨_, .operator found⟩ :: _ => found == text
  | _ => false

def isName (text : String) (tokens : Tokens) : Bool :=
  match tokens with
  | ⟨_, .name found⟩ :: _ => found == text
  | _ => false

def operator? (tokens : Tokens) : Option String :=
  match tokens with
  | ⟨_, .operator found⟩ :: _ => some found
  | _ => none

def name? (tokens : Tokens) : Option String :=
  match tokens with
  | ⟨_, .name found⟩ :: _ => some found
  | _ => none

def expectOperator (text : String) (tokens : Tokens) : Except Fault Tokens :=
  if isOperator text tokens then .ok (tokens.drop 1) else unexpected tokens

def expectName (text : String) (tokens : Tokens) : Except Fault Tokens :=
  if isName text tokens then .ok (tokens.drop 1) else unexpected tokens

def takeName (tokens : Tokens) : Except Fault (String × Tokens) :=
  match tokens with
  | ⟨_, .name found⟩ :: rest => .ok (found, rest)
  | tokens => unexpected tokens

def expectBlockEnd (tokens : Tokens) : Except Fault Tokens :=
  match tokens with
  | ⟨_, .blockEnd⟩ :: rest => .ok rest
  | tokens => unexpected tokens

def sumOperator? : String → Option Operator
  | "+" => some .add
  | "-" => some .subtract
  | _ => none

def productOperator? : String → Option Operator
  | "*" => some .multiply
  | "/" => some .divide
  | "//" => some .floorDivide
  | "%" => some .remainder
  | _ => none

def comparison? : String → Option Operator
  | "==" => some .equal
  | "!=" => some .unequal
  | "<" => some .less
  | "<=" => some .lessOrEqual
  | ">" => some .greater
  | ">=" => some .greaterOrEqual
  | _ => none

/-- Words that cannot be the unbracketed argument of a test. -/
def afterTest : List String := ["and", "or", "else", "is"]

/-- Whether the unbracketed argument of a test starts here. -/
def startsArgument (tokens : Tokens) : Bool :=
  match tokens with
  | ⟨_, .name word⟩ :: _ => word ∉ afterTest
  | ⟨_, .str _⟩ :: _ => true
  | ⟨_, .int _⟩ :: _ => true
  | ⟨_, .float _⟩ :: _ => true
  | ⟨_, .operator found⟩ :: _ => found ∈ ["+", "-", "[", "\x7b"]
  | _ => false

/-- How deep expressions may nest. -/
def depthLimit : Nat := 150

def constant? : String → Option Value
  | "true" => some (.bool true)
  | "True" => some (.bool true)
  | "false" => some (.bool false)
  | "False" => some (.bool false)
  | "none" => some .none
  | "None" => some .none
  | _ => none

/-- The levels at which two operands are joined, the loosest first. -/
inductive Level where
  | sum
  | joined
  | product
  | power

def Level.operator? (level : Level) (tokens : Tokens) : Option Operator :=
  match level, Reading.operator? tokens with
  | .sum, some text => sumOperator? text
  | .joined, some text => if text == "~" then some .concat else none
  | .product, some text => productOperator? text
  | .power, some text => if text == "**" then some .power else none
  | _, none => none

mutual

/-- Reads an expression; `depth` is how much deeper expressions may nest. -/
def expr : Nat → (depth : Nat) → Tokens → Except Fault (Expr × Tokens)
  | 0, _, tokens => unexpected tokens
  | _, 0, tokens => .error (.badText (lineOf tokens) "template exceeds maximum recursion limits")
  | fuel + 1, depth + 1, tokens => do
    let (first, tokens) ← disjunction fuel depth tokens
    choiceFrom fuel depth first tokens

def choiceFrom : Nat → Nat → Expr → Tokens → Except Fault (Expr × Tokens)
  | 0, _, _, tokens => unexpected tokens
  | fuel + 1, depth, first, tokens => do
    if isName "if" tokens then
      let (condition, tokens) ← disjunction fuel depth (tokens.drop 1)
      if isName "else" tokens then
        let (second, tokens) ← disjunction fuel depth (tokens.drop 1)
        let (second, tokens) ← choiceFrom fuel depth second tokens
        choiceFrom fuel depth (.choice condition first (some second)) tokens
      else choiceFrom fuel depth (.choice condition first none) tokens
    else return (first, tokens)

def disjunction : Nat → Nat → Tokens → Except Fault (Expr × Tokens)
  | 0, _, tokens => unexpected tokens
  | fuel + 1, depth, tokens => do
    let (first, tokens) ← conjunction fuel depth tokens
    disjunctionFrom fuel depth first tokens

def disjunctionFrom : Nat → Nat → Expr → Tokens → Except Fault (Expr × Tokens)
  | 0, _, _, tokens => unexpected tokens
  | fuel + 1, depth, first, tokens => do
    if isName "or" tokens then
      let (second, tokens) ← conjunction fuel depth (tokens.drop 1)
      disjunctionFrom fuel depth (.or first second) tokens
    else return (first, tokens)

def conjunction : Nat → Nat → Tokens → Except Fault (Expr × Tokens)
  | 0, _, tokens => unexpected tokens
  | fuel + 1, depth, tokens => do
    let (first, tokens) ← negation fuel depth tokens
    conjunctionFrom fuel depth first tokens

def conjunctionFrom : Nat → Nat → Expr → Tokens → Except Fault (Expr × Tokens)
  | 0, _, _, tokens => unexpected tokens
  | fuel + 1, depth, first, tokens => do
    if isName "and" tokens then
      let (second, tokens) ← negation fuel depth (tokens.drop 1)
      conjunctionFrom fuel depth (.and first second) tokens
    else return (first, tokens)

def negation : Nat → Nat → Tokens → Except Fault (Expr × Tokens)
  | 0, _, tokens => unexpected tokens
  | fuel + 1, depth, tokens => do
    if isName "not" tokens then
      let (operand, tokens) ← negation fuel depth (tokens.drop 1)
      return (.not operand, tokens)
    else
      let (first, tokens) ← level fuel depth .sum tokens
      comparisonFrom fuel depth first tokens

def comparisonFrom : Nat → Nat → Expr → Tokens → Except Fault (Expr × Tokens)
  | 0, _, _, tokens => unexpected tokens
  | fuel + 1, depth, first, tokens => do
    if isName "in" tokens then
      let (second, tokens) ← level fuel depth .sum (tokens.drop 1)
      comparisonFrom fuel depth (.binary .contains first second) tokens
    else if isName "not" tokens then
      let (second, tokens) ← level fuel depth .sum (← expectName "in" (tokens.drop 1))
      comparisonFrom fuel depth (.not (.binary .contains first second)) tokens
    else match (operator? tokens).bind comparison? with
      | some operator =>
        let (second, tokens) ← level fuel depth .sum (tokens.drop 1)
        comparisonFrom fuel depth (.binary operator first second) tokens
      | none => return (first, tokens)

/-- Reads operands of a level, joined from the left. -/
def level : Nat → Nat → Level → Tokens → Except Fault (Expr × Tokens)
  | 0, _, _, tokens => unexpected tokens
  | fuel + 1, depth, here, tokens => do
    let (first, tokens) ← operand fuel depth here tokens
    levelFrom fuel depth here first tokens

def operand : Nat → Nat → Level → Tokens → Except Fault (Expr × Tokens)
  | 0, _, _, tokens => unexpected tokens
  | fuel + 1, depth, here, tokens =>
    match here with
    | .sum => level fuel depth .joined tokens
    | .joined => level fuel depth .product tokens
    | .product => level fuel depth .power tokens
    | .power => unary fuel depth tokens

def levelFrom : Nat → Nat → Level → Expr → Tokens → Except Fault (Expr × Tokens)
  | 0, _, _, _, tokens => unexpected tokens
  | fuel + 1, depth, here, first, tokens => do
    match here.operator? tokens with
    | some operator =>
      let (second, tokens) ← operand fuel depth here (tokens.drop 1)
      levelFrom fuel depth here (.binary operator first second) tokens
    | none => return (first, tokens)

/-- Reads an operand with its signs, then what is applied to it. -/
def unary : Nat → Nat → Tokens → Except Fault (Expr × Tokens)
  | 0, _, tokens => unexpected tokens
  | fuel + 1, depth, tokens => do
    let (subject, rest) ← signed fuel depth tokens
    let (subject, rest) ← postfixed fuel depth (lineOf tokens) subject rest
    filtered fuel depth subject rest

def signed : Nat → Nat → Tokens → Except Fault (Expr × Tokens)
  | 0, _, tokens => unexpected tokens
  | fuel + 1, depth, tokens => do
    if isOperator "-" tokens then
      let (operand, rest) ← signed fuel depth (tokens.drop 1)
      return (.negate (lineOf tokens) operand, rest)
    else primary fuel depth tokens

/-- Reads fields, positions and calls behind a subject that starts on the given line. -/
def postfixed : Nat → Nat → (line : Nat) → Expr → Tokens → Except Fault (Expr × Tokens)
  | 0, _, _, _, tokens => unexpected tokens
  | fuel + 1, depth, line, subject, tokens => do
    let next := lineOf tokens
    if isOperator "." tokens then
      match tokens.drop 1 with
      | ⟨_, .name name⟩ :: rest => postfixed fuel depth next (.attribute line subject name) rest
      | ⟨_, .int n⟩ :: rest =>
        postfixed fuel depth next (.item line subject (.literal (.int n))) rest
      | rest => unexpected rest
    else if isOperator "[" tokens then
      let (found, rest) ← subscript fuel depth line subject (tokens.drop 1)
      postfixed fuel depth next found rest
    else if isOperator "(" tokens then
      let (arguments, rest) ← arguments fuel depth [] (tokens.drop 1)
      postfixed fuel depth next (.apply subject (.mk line "" arguments)) rest
    else return (subject, tokens)

/-- Reads a position or a range up to the closing bracket. -/
def subscript : Nat → Nat → (line : Nat) → Expr → Tokens → Except Fault (Expr × Tokens)
  | 0, _, _, _, tokens => unexpected tokens
  | fuel + 1, depth, line, subject, tokens => do
    let bound (ends : List String) (tokens : Tokens) : Except Fault (Option Expr × Tokens) :=
      if (operator? tokens).any (· ∈ ends) then .ok (none, tokens)
      else (expr fuel depth tokens).map fun (found, rest) ↦ (some found, rest)
    let (start, tokens) ← bound [":"] tokens
    if isOperator ":" tokens then
      let (stop, tokens) ← bound [":", "]"] (tokens.drop 1)
      let (step, tokens) ←
        if isOperator ":" tokens then bound ["]"] (tokens.drop 1) else .ok (none, tokens)
      return (.slice line subject start stop step, ← expectOperator "]" tokens)
    else match start with
      | some index => return (.item line subject index, ← expectOperator "]" tokens)
      | none => unexpected tokens

/-- Reads arguments up to the closing bracket; those before are held last first. -/
def arguments : Nat → Nat → (before : List Argument) → Tokens →
    Except Fault (List Argument × Tokens)
  | 0, _, _, tokens => unexpected tokens
  | fuel + 1, depth, before, tokens => do
    if isOperator ")" tokens then return (before.reverse, tokens.drop 1)
    else
      let tokens ← if before.isEmpty then .ok tokens else expectOperator "," tokens
      if isOperator ")" tokens && !before.isEmpty then return (before.reverse, tokens.drop 1)
      else
        let (argument, tokens) ← argument fuel depth before tokens
        arguments fuel depth (argument :: before) tokens

def argument : Nat → Nat → (before : List Argument) → Tokens → Except Fault (Argument × Tokens)
  | 0, _, _, tokens => unexpected tokens
  | fuel + 1, depth, before, tokens => do
    if isOperator "**" tokens then
      let (found, rest) ← expr fuel depth (tokens.drop 1)
      return (.spreadKeywords found, rest)
    else if isOperator "*" tokens then
      let (found, rest) ← expr fuel depth (tokens.drop 1)
      return (.spread found, rest)
    else
      let (found, rest) ← expr fuel depth tokens
      match found with
      | .var name =>
        if isOperator "=" rest then
          let (found, rest) ← disjunction fuel depth (rest.drop 1)
          return (.keyword name found, rest)
        else if before.any fun | .keyword .. => true | _ => false then unexpected tokens
        else return (.positional (.var name), rest)
      | found =>
        if before.any fun | .keyword .. => true | _ => false then unexpected tokens
        else return (.positional found, rest)

/-- Reads filters and tests behind a subject. -/
def filtered : Nat → Nat → Expr → Tokens → Except Fault (Expr × Tokens)
  | 0, _, _, tokens => unexpected tokens
  | fuel + 1, depth, subject, tokens => do
    if isOperator "|" tokens then
      let (call, rest) ← namedCall fuel depth (tokens.drop 1)
      filtered fuel depth (.filter subject call) rest
    else if isName "is" tokens then
      let negated := isName "not" (tokens.drop 1)
      let tokens := tokens.drop (if negated then 2 else 1)
      let line := lineOf tokens
      let (name, rest) ← takeName tokens
      let (found, rest) ←
        if isOperator "(" rest then arguments fuel depth [] (rest.drop 1)
        else if startsArgument rest then do
          let (found, after) ← signed fuel depth rest
          let (found, after) ← postfixed fuel depth (lineOf rest) found after
          pure ([Argument.positional found], after)
        else pure ([], rest)
      let tested := Expr.test subject (.mk line name found)
      filtered fuel depth (if negated then .not tested else tested) rest
    else return (subject, tokens)

/-- Reads a name with the arguments behind it, if there are any. -/
def namedCall : Nat → Nat → Tokens → Except Fault (Call × Tokens)
  | 0, _, tokens => unexpected tokens
  | fuel + 1, depth, tokens => do
    let (name, rest) ← takeName tokens
    if isOperator "(" rest then
      let (found, rest) ← arguments fuel depth [] (rest.drop 1)
      return (.mk (lineOf tokens) name found, rest)
    else return (.mk (lineOf tokens) name [], rest)

def primary : Nat → Nat → Tokens → Except Fault (Expr × Tokens)
  | 0, _, tokens => unexpected tokens
  | fuel + 1, depth, tokens => do
    match tokens with
    | ⟨_, .name name⟩ :: rest =>
      match constant? name with
      | some value => return (.literal value, rest)
      | none => return (.var name, rest)
    | ⟨_, .str text⟩ :: rest => return (.literal (.str text), rest)
    | ⟨_, .int n⟩ :: rest => return (.literal (.int n), rest)
    | ⟨_, .float x⟩ :: rest => return (.literal (.float x), rest)
    | ⟨_, .operator "("⟩ :: rest =>
      if isOperator ")" rest then return (.list [], rest.drop 1)
      else
        let (first, rest) ← expr fuel depth rest
        if isOperator "," rest then
          let (items, rest) ← itemsUntil fuel depth ")" [first] rest
          return (.list items, rest)
        else return (first, ← expectOperator ")" rest)
    | ⟨_, .operator "["⟩ :: rest =>
      let (items, rest) ← itemsUntil fuel depth "]" [] rest
      return (.list items, rest)
    | ⟨_, .operator "\x7b"⟩ :: rest =>
      let (entries, rest) ← entriesUntil fuel depth [] rest
      return (.map entries, rest)
    | tokens => unexpected tokens

/-- Reads items up to a closing bracket; those before are held last first. -/
def itemsUntil : Nat → Nat → (close : String) → (before : List Expr) → Tokens →
    Except Fault (List Expr × Tokens)
  | 0, _, _, _, tokens => unexpected tokens
  | fuel + 1, depth, close, before, tokens => do
    if isOperator close tokens then return (before.reverse, tokens.drop 1)
    else
      let tokens ← if before.isEmpty then .ok tokens else expectOperator "," tokens
      if isOperator close tokens then return (before.reverse, tokens.drop 1)
      else
        let (item, tokens) ← expr fuel depth tokens
        itemsUntil fuel depth close (item :: before) tokens

def entriesUntil : Nat → Nat → (before : List (Expr × Expr)) → Tokens →
    Except Fault (List (Expr × Expr) × Tokens)
  | 0, _, _, tokens => unexpected tokens
  | fuel + 1, depth, before, tokens => do
    if isOperator "\x7d" tokens then return (before.reverse, tokens.drop 1)
    else
      let tokens ← if before.isEmpty then .ok tokens else expectOperator "," tokens
      if isOperator "\x7d" tokens then return (before.reverse, tokens.drop 1)
      else
        let (key, tokens) ← expr fuel depth tokens
        let (value, tokens) ← expr fuel depth (← expectOperator ":" tokens)
        entriesUntil fuel depth ((key, value) :: before) tokens

end

/-- Names that cannot be assigned to. -/
def reserved : List String :=
  ["true", "True", "false", "False", "none", "None", "loop", "self"]

/-- Reads names that are assigned to, divided by commas; those before are held last first. -/
def assignees : Nat → (before : List Assignee) → Tokens → Except Fault (Assignee × Tokens)
  | 0, _, tokens => unexpected tokens
  | fuel + 1, before, tokens => do
    let (one, rest) ←
      if isOperator "(" tokens then do
        let (inside, rest) ← assignees fuel [] (tokens.drop 1)
        let inside := match inside with
          | .tuple parts => Assignee.tuple parts
          | one => one
        pure (inside, ← expectOperator ")" rest)
      else do
        let (name, rest) ← takeName tokens
        if name ∈ reserved then unexpected tokens
        else if isOperator "." rest then
          let (field, rest) ← takeName (rest.drop 1)
          pure (Assignee.field name field, rest)
        else pure (Assignee.name name, rest)
    if isOperator "," rest then
      match rest.drop 1 with
      | ⟨_, .name "in"⟩ :: more =>
        return (.tuple (one :: before).reverse, ⟨lineOf rest, .name "in"⟩ :: more)
      | more => assignees fuel (one :: before) more
    else if before.isEmpty then return (one, rest)
    else return (.tuple (one :: before).reverse, rest)

def anyExpr (tokens : Tokens) : Except Fault (Expr × Tokens) :=
  expr (32 * tokens.length + 64) depthLimit tokens

/-- An expression without a choice at its top. -/
def plainExpr (tokens : Tokens) : Except Fault (Expr × Tokens) :=
  disjunction (32 * tokens.length + 64) depthLimit tokens

def anyCall (tokens : Tokens) : Except Fault (Call × Tokens) :=
  namedCall (32 * tokens.length + 64) depthLimit tokens

/-- Reads filters divided by bars, the first of which starts here. -/
def filterChain : Nat → Tokens → Except Fault (List Call × Tokens)
  | 0, tokens => unexpected tokens
  | fuel + 1, tokens => do
    let (call, tokens) ← anyCall tokens
    if isOperator "|" tokens then
      let (more, tokens) ← filterChain fuel (tokens.drop 1)
      return (call :: more, tokens)
    else return ([call], tokens)

/-- Reads the parameters of a definition up to the closing bracket. -/
def parameters : Nat → (before : List Parameter) → Tokens →
    Except Fault (List Parameter × Tokens)
  | 0, _, tokens => unexpected tokens
  | fuel + 1, before, tokens => do
    if isOperator ")" tokens then return (before.reverse, tokens.drop 1)
    else
      let tokens ← if before.isEmpty then .ok tokens else expectOperator "," tokens
      if isOperator ")" tokens then return (before.reverse, tokens.drop 1)
      else
        let (name, tokens) ← takeName tokens
        if isOperator "=" tokens then
          let (fallback, tokens) ← anyExpr (tokens.drop 1)
          parameters fuel (⟨name, some fallback⟩ :: before) tokens
        else parameters fuel (⟨name, none⟩ :: before) tokens

/-- Reads assignments up to the end of the block. -/
def assignments : Nat → (before : List (Assignee × Expr)) → Tokens →
    Except Fault (List (Assignee × Expr) × Tokens)
  | 0, _, tokens => unexpected tokens
  | fuel + 1, before, tokens => do
    match tokens with
    | ⟨_, .blockEnd⟩ :: rest => return (before.reverse, rest)
    | tokens =>
      let tokens ← if before.isEmpty then .ok tokens else expectOperator "," tokens
      let (name, tokens) ← takeName tokens
      let (value, tokens) ← anyExpr (← expectOperator "=" tokens)
      assignments fuel ((.name name, value) :: before) tokens

/-- The word of the statement that starts here, if one does. -/
def statement? (tokens : Tokens) : Option String :=
  match tokens with
  | ⟨_, .blockStart⟩ :: ⟨_, .name word⟩ :: _ => some word
  | _ => none

/-- Steps over a statement of one word. -/
def closeStatement (tokens : Tokens) : Except Fault Tokens :=
  expectBlockEnd (tokens.drop 2)

/-- Steps over the end of a named block, which may repeat the name. -/
def closeNamed (tokens : Tokens) : Except Fault Tokens :=
  match tokens.drop 2 with
  | ⟨_, .name _⟩ :: rest => expectBlockEnd rest
  | rest => expectBlockEnd rest

mutual

/-- Reads pieces up to a statement with one of the given words, or to the end if none is given. -/
def pieces : Nat → (ends : List String) → Tokens → Except Fault (List Piece × Tokens)
  | 0, _, tokens => unexpected tokens
  | fuel + 1, ends, tokens => do
    match tokens with
    | [] => if ends.isEmpty then return ([], []) else unexpected []
    | ⟨_, .text content⟩ :: rest =>
      let (more, rest) ← pieces fuel ends rest
      return (.text content :: more, rest)
    | ⟨_, .printStart⟩ :: rest =>
      let (value, rest) ← anyExpr rest
      match rest with
      | ⟨_, .printEnd⟩ :: rest =>
        let (more, rest) ← pieces fuel ends rest
        return (.print value :: more, rest)
      | rest => unexpected rest
    | ⟨_, .blockStart⟩ :: ⟨line, .name word⟩ :: rest =>
      if word ∈ ends then return ([], tokens)
      else
        let (piece, rest) ← statement fuel line word rest
        let (more, rest) ← pieces fuel ends rest
        return (piece :: more, rest)
    | tokens => unexpected (tokens.drop 1)

/-- Reads the statement that starts with a word. -/
def statement : Nat → (line : Nat) → (word : String) → Tokens → Except Fault (Piece × Tokens)
  | 0, _, _, tokens => unexpected tokens
  | fuel + 1, line, word, tokens => do
    match word with
    | "if" => branch fuel tokens
    | "for" =>
      let (assignee, tokens) ← assignees (tokens.length + 1) [] tokens
      let (source, tokens) ← plainExpr (← expectName "in" tokens)
      let (condition, tokens) ←
        if isName "if" tokens then
          (anyExpr (tokens.drop 1)).map fun (found, rest) ↦ (some found, rest)
        else pure (none, tokens)
      let tokens := if isName "recursive" tokens then tokens.drop 1 else tokens
      let (body, tokens) ← pieces fuel ["else", "endfor"] (← expectBlockEnd tokens)
      if statement? tokens == some "else" then
        let (otherwise, tokens) ← pieces fuel ["endfor"] (← closeStatement tokens)
        return (.each assignee source condition body otherwise, ← closeStatement tokens)
      else return (.each assignee source condition body [], ← closeStatement tokens)
    | "set" =>
      let (assignee, tokens) ← assignees (tokens.length + 1) [] tokens
      if isOperator "=" tokens then
        let (value, tokens) ← anyExpr (tokens.drop 1)
        return (.set assignee value, ← expectBlockEnd tokens)
      else
        let (filters, tokens) ←
          if isOperator "|" tokens then filterChain (tokens.length + 1) (tokens.drop 1)
          else pure ([], tokens)
        let (body, tokens) ← pieces fuel ["endset"] (← expectBlockEnd tokens)
        return (.setText assignee filters body, ← closeStatement tokens)
    | "with" =>
      let (found, tokens) ← assignments (tokens.length + 1) [] tokens
      let (body, tokens) ← pieces fuel ["endwith"] tokens
      return (.within found body, ← closeStatement tokens)
    | "filter" =>
      let (filters, tokens) ← filterChain (tokens.length + 1) tokens
      let (body, tokens) ← pieces fuel ["endfilter"] (← expectBlockEnd tokens)
      return (.filtered filters body, ← closeStatement tokens)
    | "macro" =>
      let (name, tokens) ← takeName tokens
      let (found, tokens) ← parameters (tokens.length + 1) [] (← expectOperator "(" tokens)
      let (body, tokens) ← pieces fuel ["endmacro"] (← expectBlockEnd tokens)
      return (.define name found body, ← closeNamed tokens)
    | "call" =>
      let (found, tokens) ←
        if isOperator "(" tokens then parameters (tokens.length + 1) [] (tokens.drop 1)
        else pure ([], tokens)
      let (called, tokens) ← anyExpr tokens
      let (body, tokens) ← pieces fuel ["endcall"] (← expectBlockEnd tokens)
      match called with
      | .apply function call => return (.callWith function call found body, ← closeStatement tokens)
      | _ => .error (.badText line "expected call expression in call block")
    | "do" =>
      let (value, tokens) ← anyExpr tokens
      return (.evaluate value, ← expectBlockEnd tokens)
    | "block" =>
      let (_, tokens) ← takeName tokens
      let (body, tokens) ← pieces fuel ["endblock"] (← expectBlockEnd tokens)
      return (.group body, ← closeNamed tokens)
    | "autoescape" =>
      let (_, tokens) ← anyExpr tokens
      let (body, tokens) ← pieces fuel ["endautoescape"] (← expectBlockEnd tokens)
      return (.group body, ← closeStatement tokens)
    | "include" =>
      let (name, tokens) ← anyExpr tokens
      if isName "ignore" tokens then
        let tokens ← expectName "missing" (tokens.drop 1)
        return (.reference line true true name, ← expectBlockEnd tokens)
      else return (.reference line true false name, ← expectBlockEnd tokens)
    | "extends" =>
      let (name, tokens) ← anyExpr tokens
      return (.reference line false false name, ← expectBlockEnd tokens)
    | "import" =>
      let (name, tokens) ← anyExpr tokens
      let (_, tokens) ← takeName (← expectName "as" tokens)
      return (.reference line false false name, ← expectBlockEnd tokens)
    | _ => .error (.badText line ("unknown statement " ++ word))

/-- Reads a branch after `if` or `elif` up to its end. -/
def branch : Nat → Tokens → Except Fault (Piece × Tokens)
  | 0, tokens => unexpected tokens
  | fuel + 1, tokens => do
    let (condition, tokens) ← anyExpr tokens
    let (yes, tokens) ← pieces fuel ["elif", "else", "endif"] (← expectBlockEnd tokens)
    if statement? tokens == some "elif" then
      let (other, tokens) ← branch fuel (tokens.drop 2)
      return (.branch condition yes [other], tokens)
    else if statement? tokens == some "else" then
      let (no, tokens) ← pieces fuel ["endif"] (← closeStatement tokens)
      return (.branch condition yes no, ← closeStatement tokens)
    else return (.branch condition yes [], ← closeStatement tokens)

end

end Reading

/-- The pieces of a template, or what is wrong with its text. -/
def parse (text : String) : Except Fault (List Piece) := do
  let tokens ← Token.scan text
  let (found, _) ← Reading.pieces (4 * tokens.length + 4) [] tokens
  return found

end Playbook.Template
