import Playbook.Shell.Machine
import Playbook.Shell.Printing
import Playbook.Shell.Regular
import Playbook.Text.Blank
import Playbook.Text.Search

/-!
# Utilities on texts

Commands that make a text of the lines of another one. Each gives what it writes and its status.
-/

namespace Playbook.Shell.TextUtility

/-- The flags in front of the other arguments, without their dashes. -/
def flags (arguments : List String) : List String :=
  (arguments.takeWhile fun text ↦ text.startsWith "-" && text.length > 1).map fun text ↦
    String.ofList (text.toList.drop 1)

def operands (arguments : List String) : List String :=
  arguments.drop (flags arguments).length

def unlines (lines : List String) : String :=
  String.join (lines.map (· ++ "\n"))

def number? (text : String) : Option Nat :=
  if !text.isEmpty && text.all Char.isDigit then text.toNat? else none

/-- The number behind a flag, in the flag itself or in the argument after it, and the arguments
that are left. -/
def counted (flag : Char) : List String → Option (Nat × List String)
  | [] => none
  | argument :: rest =>
    match argument.toList with
    | '-' :: c :: digits =>
      if c == flag then
        if digits.isEmpty then (number? (rest.headD "")).map fun n ↦ (n, rest.drop 1)
        else (number? (String.ofList digits)).map fun n ↦ (n, rest)
      else none
    | _ => none

/-- The first or the last lines, or characters. -/
def portion (fromEnd : Bool) (arguments : List String) (text : String) : String :=
  let cut {α : Type} (n : Nat) (items : List α) : List α :=
    if fromEnd then items.drop (items.length - n) else items.take n
  match counted 'c' arguments with
  | some (n, _) => Text.Utf8.lossy (cut n (Text.Utf8.encode text))
  | none =>
    let count := match counted 'n' arguments with
      | some (n, _) => n
      | none => ((flags arguments).head?.bind number?).getD 10
    unlines (cut count (Text.lines text))

/-- The arguments that name the files of `portion`. -/
def portionFiles (arguments : List String) : List String :=
  match (counted 'c' arguments).or (counted 'n' arguments) with
  | some (_, rest) => rest
  | none => operands arguments

/-- Orders lines by their bytes, or by the numbers they start with. -/
def sortLines (flags : List Char) (lines : List String) : List String :=
  let number (line : String) : Int :=
    let text := line.toList.dropWhile (· == ' ')
    let (negative, digits) := match text with
      | '-' :: rest => (true, rest)
      | rest => (false, rest)
    let value : Int := (String.ofList (digits.takeWhile Char.isDigit)).toNat?.getD 0
    if negative then -value else value
  let before (a b : String) : Bool :=
    if 'n' ∈ flags && number a != number b then number a < number b else !(b < a)
  let sorted := lines.mergeSort before
  let sorted := if 'u' ∈ flags then sorted.eraseReps else sorted
  if 'r' ∈ flags then sorted.reverse else sorted

/-- Neighbouring equal lines with their number. -/
def runs : List String → List (String × Nat)
  | [] => []
  | line :: rest =>
    match runs rest with
    | (other, n) :: more =>
      if line == other then (line, n + 1) :: more else (line, 1) :: (other, n) :: more
    | [] => [(line, 1)]

def padLeft (width : Nat) (text : String) : String :=
  String.ofList (List.replicate (width - text.length) ' ') ++ text

def uniq (flags : List Char) (lines : List String) : List String :=
  let found := (runs lines).filter fun entry ↦ if 'd' ∈ flags then entry.2 > 1
    else if 'u' ∈ flags then entry.2 == 1 else true
  found.map fun (line, n) ↦ if 'c' ∈ flags then padLeft 7 (toString n) ++ " " ++ line else line

/-- The counts of lines, words and bytes that are asked for. -/
def count (flags : List Char) (name : Option String) (text : String) : String :=
  let counts := [('l', text.toList.count '\n'), ('w', (Text.words text).length),
    ('m', text.length), ('c', (Text.Utf8.encode text).length)]
  let asked := if flags.isEmpty then ['l', 'w', 'c'] else flags
  let chosen := (counts.filter (·.1 ∈ asked)).map fun entry ↦ toString entry.2
  let width := if chosen.length ≤ 1 then 0 else if name.isNone then 7
    else (toString (Text.Utf8.encode text).length).length
  " ".intercalate (chosen.map (padLeft width) ++ name.toList) ++ "\n"

/-- The lines in which the expression occurs. -/
def grep (flags : List Char) (pattern : String) (lines : List String) : List String × Nat :=
  let fold (text : String) : String :=
    if 'i' ∈ flags then String.ofList (text.toList.map Char.toLower) else text
  let regular := if 'F' ∈ flags then Regular.plain (fold pattern)
    else Regular.read ('E' ∈ flags) (fold pattern)
  let found := lines.filter fun line ↦
    (Regular.occurs regular (fold line).toList) != decide ('v' ∈ flags)
  let shown := if 'q' ∈ flags then [] else if 'c' ∈ flags then [toString found.length] else found
  (shown, if found.isEmpty then 1 else 0)

/-- The characters that a set of `tr` names. -/
def charSet : (fuel : Nat) → List Char → List Char
  | 0, _ => []
  | _, [] => []
  | fuel + 1, '[' :: ':' :: rest =>
    let name := String.ofList (rest.takeWhile (· != ':'))
    let members := (CharClass.namedRanges.lookup name).getD []
    members.flatMap range ++ charSet fuel (rest.drop (name.length + 2))
  | fuel + 1, '\\' :: c :: rest =>
    Char.ofNat (((Printing.simpleEscape? c).map UInt8.toNat).getD c.toNat) :: charSet fuel rest
  | fuel + 1, a :: '-' :: b :: rest => range (a, b) ++ charSet fuel rest
  | fuel + 1, c :: rest => c :: charSet fuel rest
where
  range (ends : Char × Char) : List Char :=
    (List.range (ends.2.toNat + 1 - ends.1.toNat)).map fun i ↦ Char.ofNat (ends.1.toNat + i)

def squeeze (members : List Char) : List Char → List Char
  | a :: b :: rest =>
    if a == b && a ∈ members then squeeze members (b :: rest) else a :: squeeze members (b :: rest)
  | rest => rest

def transliterate (arguments : List String) (text : String) : String :=
  let sets := (operands arguments).map fun set ↦ charSet (set.length + 1) set.toList
  let first := sets.headD []
  let flags := (flags arguments).flatMap String.toList
  let outside (c : Char) : Bool := if 'c' ∈ flags then c ∉ first else c ∈ first
  if 'd' ∈ flags then String.ofList (text.toList.filter (!outside ·))
  else match sets with
    | [first, second] =>
      let map (c : Char) : Char :=
        match first.idxOf? c with
        | some i => second[min i (second.length - 1)]?.getD c
        | none => c
      let mapped := text.toList.map map
      String.ofList (if 's' ∈ flags then squeeze second mapped else mapped)
    | _ => if 's' ∈ flags then String.ofList (squeeze first text.toList) else text

/-- The integers from one to another. -/
def sequence (arguments : List String) : String :=
  let numbers := arguments.map Printing.integer
  let (first, step, last) : Int × Int × Int := match numbers with
    | [last] => (1, 1, last)
    | [first, last] => (first, 1, last)
    | [first, step, last] => (first, step, last)
    | _ => (1, 1, 0)
  let count := if step == 0 then 0 else ((last - first) / step + 1).toNat
  unlines ((List.range count).map fun i : Nat ↦ toString (first + i * step))

/-- The fields that a list of places such as `1,3-4` or `2-` names. -/
def chosenPlaces (text : String) (length : Nat) : List Nat :=
  let wanted := (text.splitOn ",").flatMap fun part ↦
    match part.splitOn "-" with
    | [one] => [one.toNat?.getD 0]
    | [low, high] =>
      let low := low.toNat?.getD 1
      let high := high.toNat?.getD length
      (List.range (high + 1 - low)).map (low + ·)
    | _ => []
  (List.range length).filter fun i ↦ i + 1 ∈ wanted

/-- Fields or characters of every line. -/
def cut (arguments : List String) (lines : List String) : List String :=
  let option (flag : Char) : Option String :=
    (arguments.zip (arguments.drop 1 ++ [""])).findSome? fun (argument, next) ↦
      match argument.toList with
      | '-' :: c :: rest =>
        if c == flag then some (if rest.isEmpty then next else String.ofList rest) else none
      | _ => none
  let delimiter := (option 'd').getD "\t"
  lines.map fun line ↦
    match option 'f', option 'c' with
    | some places, _ =>
      let fields := line.splitOn delimiter
      if fields.length == 1 then line
      else delimiter.intercalate ((chosenPlaces places fields.length).filterMap (fields[·]?))
    | none, some places =>
      String.ofList ((chosenPlaces places line.length).filterMap (line.toList[·]?))
    | none, none => line

/-- A substitution written `s/…/…/` with any mark in place of the slashes. -/
def substitution? (script : String) : Option (Regular × Bool × String) :=
  match script.toList with
  | 's' :: mark :: rest =>
    match (String.ofList rest).splitOn mark.toString with
    | [pattern, replacement, flags] =>
      some (Regular.read false pattern, flags == "g", replacement)
    | _ => none
  | _ => none

def edit (script : String) (lines : List String) : Option (List String) :=
  (substitution? script).map fun (regular, all, replacement) ↦
    lines.map fun line ↦
      String.ofList (Regular.replace regular all replacement.toList true 0 line.toList)

/-- The files that a utility reads; without one it reads its input. -/
def files (name : String) (arguments : List String) : List String :=
  match name with
  | "head" => portionFiles arguments
  | "tail" => portionFiles arguments
  | "grep" => (operands arguments).drop 1
  | "sed" => (operands arguments).drop 1
  | "tr" => []
  | "cut" => []
  | _ => operands arguments

/-- What a utility writes for a text, and its status. -/
def run? (name : String) (arguments : List String) (text : String) : Option (String × Nat) :=
  let letters := (flags arguments).flatMap String.toList
  let lines := Text.lines text
  match name with
  | "head" => some (portion false arguments text, 0)
  | "tail" => some (portion true arguments text, 0)
  | "sort" => some (unlines (sortLines letters lines), 0)
  | "uniq" => some (unlines (uniq letters lines), 0)
  | "wc" => some (count letters (operands arguments).head? text, 0)
  | "grep" =>
    let (found, status) := grep letters ((operands arguments).headD "") lines
    some (unlines found, status)
  | "tr" => some (transliterate arguments text, 0)
  | "rev" => some (unlines (lines.map fun line ↦ String.ofList line.toList.reverse), 0)
  | "tac" => some (unlines lines.reverse, 0)
  | "cut" => some (unlines (cut arguments lines), 0)
  | "sed" =>
    (edit ((operands arguments).headD "") lines).map fun lines ↦ (unlines lines, 0)
  | _ => none

end Playbook.Shell.TextUtility
