import Playbook.Element
import Playbook.Text.Blank
import Playbook.Text.Search

/-!
# Files of variables

A line gives a variable a value, which may be quoted and may refer to variables with a dollar sign.
Blank lines and lines that start with a number sign are passed over. Variables that are there
already keep their values. The first line that cannot be read ends the reading; what was read
before stays.
-/

namespace Playbook.VariableFile

/-- A reference to a variable that is being read: whether it is in braces, and its name so far. -/
structure Reference where
  braced : Bool
  name : List Char

/-- The state inside a value. Characters are kept with the last one first. -/
structure Reading where
  output : List Char := []
  quote : Option Char := none
  escaped : Bool := false
  /-- After a blank outside of quotes only a comment may follow. -/
  ended : Bool := false
  reference : Option Reference := none

namespace Reading

def push (state : Reading) (c : Char) : Reading :=
  { state with output := c :: state.output }

/-- Puts the value of the variable in whose name was read. -/
def substitute (environment : Environment) (state : Reading) (name : List Char) : Reading :=
  let value := (environment.get? (String.ofList name.reverse)).getD ""
  { state with output := value.toList.reverse ++ state.output, reference := none }

def startReference (state : Reading) : Reading :=
  { state with reference := some ⟨false, []⟩ }

/-- A character after a backslash. -/
def escape (state : Reading) (c : Char) : Option Reading :=
  let state := { state with escaped := false }
  if c == '\\' || c == '\'' || c == '\"' || c == '$' || c == ' ' then some (state.push c)
  else if c == 'n' then some (state.push '\n')
  else none

/-- A character in a reference. -/
def refer (environment : Environment) (state : Reading) (reference : Reference) (c : Char) :
    Reading :=
  let extended := { reference with name := c :: reference.name }
  if c.isAlphanum then { state with reference := some extended }
  else if reference.braced then
    if c == '\x7d' then state.substitute environment reference.name
    else { state with reference := some extended }
  else if c == '\x7b' && reference.name.isEmpty then
    { state with reference := some ⟨true, []⟩ }
  else
    let state := state.substitute environment reference.name
    if c == '$' then state.startReference else state.push c

/-- A character outside of single quotes, escapes and references. -/
def character (state : Reading) (c : Char) : Reading :=
  if c == '$' then state.startReference
  else if c == '\\' then { state with escaped := true }
  else if state.quote.isSome then
    if c == '\"' then { state with quote := none } else state.push c
  else if c == '\'' || c == '\"' then { state with quote := some c }
  else if c == ' ' || c == '\t' then { state with ended := true }
  else state.push c

/-- The value, unless something is left open. -/
def finish (environment : Environment) (state : Reading) : Option String :=
  let result (state : Reading) := some (String.ofList state.output.reverse)
  if state.quote.isSome then none
  else match state.reference with
    | some reference =>
      if reference.braced then none else result (state.substitute environment reference.name)
    | none => result state

end Reading

def value? (environment : Environment) (state : Reading) : List Char → Option String
  | [] => state.finish environment
  | c :: rest =>
    if state.ended then
      if c == ' ' || c == '\t' then value? environment state rest
      else if c == '#' then state.finish environment
      else none
    else if state.escaped then (state.escape c).bind fun state ↦ value? environment state rest
    else if state.quote == some '\'' then
      value? environment (if c == '\'' then { state with quote := none } else state.push c) rest
    else match state.reference with
      | some reference => value? environment (state.refer environment reference c) rest
      | none => value? environment (state.character c) rest

/-- The name of a variable at the start of a text. -/
def key? (line : List Char) : Option (String × List Char) :=
  match line with
  | c :: _ =>
    if c.isAlpha || c == '_' then
      let inside (c : Char) := c.isAlphanum || c == '_' || c == '.'
      some (String.ofList (line.takeWhile inside), Text.trimStart (line.dropWhile inside))
    else none
  | [] => none

/-- The name of a variable, with or without a word before it that exports it, and what follows the
equals sign. -/
def assignment? (line : List Char) : Option (String × List Char) :=
  (key? line).bind fun (name, rest) ↦
    match rest with
    | '=' :: rest => some (name, Text.trimStart rest)
    | rest =>
      if name == "export" then
        match key? rest with
        | some (name, '=' :: rest) => some (name, Text.trimStart rest)
        | _ => none
      else none

/-- The variables after a line, unless it cannot be read. -/
def readLine (environment : Environment) (line : List Char) : Option Environment :=
  let line := Text.trimList line
  if line.isEmpty || line.head? == some '#' then some environment
  else (assignment? line).bind fun (name, rest) ↦
    let value := if rest.head? == some '#' then some "" else value? environment {} rest
    value.map fun value ↦
      if environment.contains name then environment else environment.insert name value

def readLines (environment : Environment) : List (List Char) → Environment
  | [] => environment
  | line :: rest =>
    match readLine environment line with
    | some environment => readLines environment rest
    | none => environment

/-- The variables after a file was read. -/
def load (environment : Environment) (text : String) : Environment :=
  readLines environment (Text.splitFrom ['\n'] [] 0 text.toList)

end Playbook.VariableFile
