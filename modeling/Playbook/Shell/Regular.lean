import Playbook.Shell.Pattern

/-!
# Regular expressions

Expressions that lines are searched for: characters and classes, which may be repeated, between
optional anchors.
-/

namespace Playbook.Shell

/-- How often a class is met. -/
inductive Repetition where
  | once
  | atMostOnce
  | any
  | atLeastOnce
  deriving DecidableEq, Repr

structure Regular where
  atStart : Bool
  atEnd : Bool
  items : List (CharClass × Repetition)

namespace Regular

def repetition (extended : Bool) : List Char → Repetition × List Char
  | '*' :: rest => (.any, rest)
  | '+' :: rest => if extended then (.atLeastOnce, rest) else (.once, '+' :: rest)
  | '?' :: rest => if extended then (.atMostOnce, rest) else (.once, '?' :: rest)
  | '\\' :: '+' :: rest => if extended then (.once, '\\' :: '+' :: rest) else (.atLeastOnce, rest)
  | rest => (.once, rest)

/-- Reads the items of an expression; the flag tells whether an anchor ends them. -/
def readItems (extended : Bool) : (fuel : Nat) → List Char →
    List (CharClass × Repetition) × Bool
  | 0, _ => ([], false)
  | _, [] => ([], false)
  | _, ['$'] => ([], true)
  | fuel + 1, c :: rest =>
    let (item, rest) := match c, rest with
      | '.', rest => (CharClass.any, rest)
      | '[', rest => (CharClass.bracketed? rest).getD (.one '[', rest)
      | '\\', d :: rest => (.one d, rest)
      | c, rest => (.one c, rest)
    let (times, rest) := repetition extended rest
    let (items, anchored) := readItems extended fuel rest
    ((item, times) :: items, anchored)

def read (extended : Bool) (text : String) : Regular :=
  let (atStart, rest) := match text.toList with
    | '^' :: rest => (true, rest)
    | rest => (false, rest)
  let (items, atEnd) := readItems extended (rest.length + 1) rest
  ⟨atStart, atEnd, items⟩

/-- The expression that only the text itself fits. -/
def plain (text : String) : Regular :=
  ⟨false, false, text.toList.map fun c ↦ (.one c, .once)⟩

/-- What is left after the longest start of a text that fits the items. -/
def rest? (atEnd : Bool) : List (CharClass × Repetition) → List Char → Option (List Char)
  | [], text => if atEnd && !text.isEmpty then none else some text
  | (allowed, times) :: items, text =>
    let most := (text.takeWhile (allowed.has ·)).length
    let (low, high) := match times with
      | .once => (1, min 1 most)
      | .atMostOnce => (0, min 1 most)
      | .any => (0, most)
      | .atLeastOnce => (1, most)
    (List.range (high + 1 - low)).reverse.findSome? fun n ↦ rest? atEnd items (text.drop (n + low))

/-- Puts a text in place of the first part that fits, or of all of them. -/
def replace (regular : Regular) (all : Bool) (replacement : List Char) :
    (start : Bool) → (skip : Nat) → List Char → List Char
  | start, 0, text =>
    let found := if regular.atStart && !start then none else rest? regular.atEnd regular.items text
    match found, text with
    | some rest, c :: text =>
      let length := text.length + 1 - rest.length
      if length == 0 then c :: replace regular all replacement false 0 text
      else replacement ++
        (if all then replace regular all replacement false (length - 1) text
        else text.drop (length - 1))
    | none, c :: text => c :: replace regular all replacement false 0 text
    | some _, [] => []
    | none, [] => []
  | _, _ + 1, [] => []
  | _, skip + 1, _ :: text => replace regular all replacement false skip text

/-- Whether a part of the text fits. -/
def occurs (regular : Regular) (text : List Char) : Bool :=
  let starts := if regular.atStart then [text] else Pattern.suffixes text
  starts.any fun text ↦ (rest? regular.atEnd regular.items text).isSome

end Regular

end Playbook.Shell
