/-!
# Searching a text

Occurrences of a pattern are found from the left and do not overlap. An empty pattern occurs around
every character.
-/

namespace Playbook.Text

def occurs (pattern : List Char) : List Char → Bool
  | [] => pattern.isEmpty
  | c :: rest => pattern.isPrefixOf (c :: rest) || occurs pattern rest

/-- Every occurrence of `pattern` becomes `replacement`, once `skip` characters are passed over. -/
def replaceFrom (pattern replacement : List Char) : (skip : Nat) → List Char → List Char
  | _, [] => if pattern.isEmpty then replacement else []
  | skip + 1, _ :: rest => replaceFrom pattern replacement skip rest
  | 0, c :: rest =>
    if pattern.isEmpty then replacement ++ c :: replaceFrom pattern replacement 0 rest
    else if pattern.isPrefixOf (c :: rest) then
      replacement ++ replaceFrom pattern replacement (pattern.length - 1) rest
    else c :: replaceFrom pattern replacement 0 rest

def replace (pattern replacement text : String) : String :=
  String.ofList (replaceFrom pattern.toList replacement.toList 0 text.toList)

/-- The stretches between occurrences of `separator`; `piece` is the reversed start of one. -/
def splitFrom (separator piece : List Char) : (skip : Nat) → List Char → List (List Char)
  | _, [] => if separator.isEmpty then [piece.reverse, []] else [piece.reverse]
  | skip + 1, _ :: rest => splitFrom separator piece skip rest
  | 0, c :: rest =>
    if separator.isEmpty then piece.reverse :: splitFrom separator [c] 0 rest
    else if separator.isPrefixOf (c :: rest) then
      piece.reverse :: splitFrom separator [] (separator.length - 1) rest
    else splitFrom separator (c :: piece) 0 rest

def split (separator text : String) : List String :=
  (splitFrom separator.toList [] 0 text.toList).map String.ofList

/-- The lines of a text, without the line feed and a carriage return before it. -/
def lines (text : String) : List String :=
  let pieces := splitFrom ['\n'] [] 0 text.toList
  let pieces := if pieces.getLast? == some [] then pieces.dropLast else pieces
  pieces.map fun line ↦
    String.ofList (if line.getLast? == some '\r' then line.dropLast else line)

end Playbook.Text
