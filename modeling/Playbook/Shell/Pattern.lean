/-!
# Patterns

Patterns for names of files and for the branches of `case`: a star stands for any text, a question
mark for any character, and brackets for one of several characters.
-/

namespace Playbook.Shell

/-- What one character of a text may be. -/
inductive CharClass where
  | any
  | one (c : Char)
  /-- Ranges of characters, which the character is in, or not in if `inverted`. -/
  | ranges (inverted : Bool) (members : List (Char × Char))
  deriving Repr

namespace CharClass

def has (c : Char) : CharClass → Bool
  | .any => true
  | .one d => c == d
  | .ranges inverted members => (members.any fun range ↦ range.1 ≤ c && c ≤ range.2) != inverted

def namedRanges : List (String × List (Char × Char)) :=
  [("alpha", [('a', 'z'), ('A', 'Z')]), ("digit", [('0', '9')]), ("upper", [('A', 'Z')]),
    ("lower", [('a', 'z')]), ("alnum", [('0', '9'), ('a', 'z'), ('A', 'Z')]),
    ("space", [(' ', ' '), ('\t', '\r')]), ("blank", [(' ', ' '), ('\t', '\t')]),
    ("punct", [('!', '/'), (':', '@'), ('[', '\x60'), ('\x7b', '~')])]

/-- The ranges before the closing bracket, and what follows it. -/
def readRanges : (fuel : Nat) → (first : Bool) → List Char →
    Option (List (Char × Char) × List Char)
  | 0, _, _ => none
  | fuel + 1, first, text =>
    let more (found : List (Char × Char)) (rest : List Char) :=
      (readRanges fuel false rest).map fun (members, rest) ↦ (found ++ members, rest)
    match text with
    | [] => none
    | '[' :: ':' :: rest =>
      let name := String.ofList (rest.takeWhile (· != ':'))
      match namedRanges.lookup name, rest.drop (name.length + 1) with
      | some found, ']' :: rest => more found rest
      | _, _ => more [('[', '[')] (':' :: rest)
    | ']' :: rest => if first then more [(']', ']')] rest else some ([], rest)
    | a :: '-' :: b :: rest =>
      if b == ']' then more [(a, a)] ('-' :: b :: rest) else more [(a, b)] rest
    | a :: rest => more [(a, a)] rest

/-- A class in brackets, read after the opening one. -/
def bracketed? (text : List Char) : Option (CharClass × List Char) :=
  let (inverted, rest) := match text with
    | '!' :: rest => (true, rest)
    | '^' :: rest => (true, rest)
    | rest => (false, rest)
  (readRanges (rest.length + 1) true rest).map fun (members, rest) ↦
    (.ranges inverted members, rest)

end CharClass

/-- A pattern, in which a star is none of the classes. -/
abbrev Pattern := List (Option CharClass)

namespace Pattern

def readFrom : (fuel : Nat) → List Char → Pattern
  | 0, _ => []
  | _, [] => []
  | fuel + 1, '*' :: rest => none :: readFrom fuel rest
  | fuel + 1, '?' :: rest => some .any :: readFrom fuel rest
  | fuel + 1, '\\' :: c :: rest => some (.one c) :: readFrom fuel rest
  | fuel + 1, '[' :: rest =>
    match CharClass.bracketed? rest with
    | some (members, rest) => some members :: readFrom fuel rest
    | none => some (.one '[') :: readFrom fuel rest
  | fuel + 1, c :: rest => some (.one c) :: readFrom fuel rest

def read (text : List Char) : Pattern :=
  readFrom (text.length + 1) text

def suffixes {α : Type} : List α → List (List α)
  | [] => [[]]
  | a :: rest => (a :: rest) :: suffixes rest

def fits : Pattern → List Char → Bool
  | [], text => text.isEmpty
  | none :: rest, text => (suffixes text).any (fits rest)
  | some allowed :: rest, c :: text => allowed.has c && fits rest text
  | some _ :: _, [] => false

/-- The lengths of the starts of a text that fit, the shortest first. -/
def starts (pattern : Pattern) (text : List Char) : List Nat :=
  (List.range (text.length + 1)).filter fun n ↦ pattern.fits (text.take n)

/-- The lengths of the ends of a text that fit, the shortest first. -/
def ends (pattern : Pattern) (text : List Char) : List Nat :=
  (List.range (text.length + 1)).filter fun n ↦ pattern.fits (text.drop (text.length - n))

/-- Puts a text in place of the first part that fits, or of all of them. -/
def replace (pattern : Pattern) (all : Bool) (replacement : List Char) :
    (skip : Nat) → List Char → List Char
  | _, [] => []
  | skip + 1, _ :: rest => replace pattern all replacement skip rest
  | 0, c :: rest =>
    match (pattern.starts (c :: rest)).getLast? with
    | some (n + 1) =>
      replacement ++ (if all then replace pattern all replacement n rest else rest.drop n)
    | _ => c :: replace pattern all replacement 0 rest

/-- Whether a text stands for more than itself when it names a file. -/
def isOpen (text : List Char) : Bool :=
  text.any (· ∈ ['*', '?', '['])

end Pattern

end Playbook.Shell
