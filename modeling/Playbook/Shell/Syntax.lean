/-!
# Commands of the shell language

The part of the shell language that tasks are run with: simple commands with assignments and
redirections, pipelines, lists, groups, loops, branches and functions. What a word holds in command
substitutions, arithmetic and defaults is kept as text and read when the word is expanded.
-/

namespace Playbook.Shell

/-- A piece of a word; a quoted piece is not split into fields. -/
inductive Part where
  | literal (text : String) (quoted : Bool)
  /-- A variable, an operator on its value and what follows the operator. -/
  | parameter (name operator argument : String) (quoted : Bool)
  | arithmetic (expression : String)
  | substitution (source : String) (quoted : Bool)
  deriving Inhabited

abbrev Word := List Part

inductive Redirect where
  | read
  | write
  | append
  /-- The target is the number of another stream. -/
  | duplicate
  /-- Both output streams go to the target. -/
  | both
  /-- The target is the input itself. -/
  | text
  deriving DecidableEq

structure Redirection where
  stream : Nat
  kind : Redirect
  target : Word

inductive Command where
  | simple (line : Nat) (assignments : List (String × Word)) (words : List Word)
      (redirections : List Redirection)
  | negated (command : Command)
  | pipe (first second : Command)
  | both (first second : Command)
  | either (first second : Command)
  | seq (first second : Command)
  | group (body : Command) (separate : Bool) (redirections : List Redirection)
  | cycle (condition body : Command) (inverted : Bool) (redirections : List Redirection)
  | branch (condition yes : Command) (no : Option Command) (redirections : List Redirection)
  | each (name : String) (words : List Word) (body : Command) (redirections : List Redirection)
  /-- The first clause with a pattern that the subject fits is run. -/
  | choose (subject : Word) (clauses : List (List Word × Command))
  | define (name : String) (body : Command)

def Command.nothing : Command := .simple 1 [] [] []

instance : Inhabited Command := ⟨.nothing⟩

inductive Token where
  | word (line : Nat) (word : Word)
  | operator (line : Nat) (text : String)
  | redirect (stream : Option Nat) (kind : Redirect)
  deriving Inhabited

/-- Why a command line could not be read. -/
inductive Fault where
  | unclosed (line : Nat) (mark : String)
  | unexpected (line : Nat) (token : String)
  | unfinished

/-- The messages of a fault in a command line: where a token is out of place, the line with it is
shown too. -/
def Fault.messages (source : String) : Fault → List String
  | .unclosed line mark =>
    [s!"line {line}: unexpected EOF while looking for matching `" ++ mark ++ "'"]
  | .unexpected line token =>
    let shown := (source.splitOn "\n")[line - 1]?.getD ""
    [s!"line {line}: syntax error near unexpected token `" ++ token ++ "'",
      s!"line {line}: `" ++ shown ++ "'"]
  | .unfinished =>
    let last := (source.splitOn "\n").length + 1
    [s!"line {last}: syntax error: unexpected end of file"]

end Playbook.Shell
