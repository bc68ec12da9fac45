import Playbook.Decimal.Division
import Playbook.Json.Reading
import Playbook.Template.Filter.Argument
import Playbook.Text.Base64
import Playbook.Text.Blank
import Playbook.Text.CaseMap
import Playbook.Text.Search
import Playbook.Text.Utf8

/-!
# Filters on texts and numbers

Filters that read a number from a text never fail: a text that is no number counts as zero.
-/

namespace Playbook.Template.Filter

/-- The integer that the text of a value spells, or the integer part of the number it spells. -/
def int (value : Value) : Value :=
  let numeral := Text.trimList value.text.toList
  match Decimal.Integer.int64 numeral with
  | .ok n => .int n
  | .error _ =>
    match Decimal.float? numeral with
    | some x => .int (Decimal.saturated x)
    | none => .int 0

def float (value : Value) : Value :=
  .float ((Decimal.float? (Text.trimList value.text.toList)).getD 0.0)

/-- Texts count as true by their word, other values by their content. -/
def bool (value : Value) : Value :=
  match value with
  | .str text => .bool (Text.lower (Text.trim text) ∈ ["true", "yes", "on", "1"])
  | value => .bool value.isTrue

def default (value : Value) (fallback : Option Value) : Value :=
  if value.isAbsent then fallback.getD (.str "") else value

def toJson (value : Value) : Except Fault Value :=
  match value.toJson? with
  | some json => .ok (.str json.compact)
  | none => .error (.invalid "tojson error: key must be a string")

def fromJson (value : Value) : Except Fault Value :=
  match Json.parse value.text with
  | .ok json => .ok (.ofJson json)
  | .error message => .error (.invalid ("fromjson error: " ++ message))

def split (value : Value) (separator : Option Value) : Value :=
  let pieces := match separator with
    | some separator => Text.split separator.text value.text
    | none => Text.words value.text
  .list (pieces.map .str)

def base64Encode (value : Value) : Value :=
  .str (Text.Base64.encodeText (Text.Utf8.encode value.text))

def base64Decode (value : Value) : Except Fault Value :=
  match Text.Base64.decode (Text.Utf8.encode value.text) with
  | .error fault => .error (.invalid ("b64decode error: " ++ fault.message))
  | .ok bytes =>
    match Text.Utf8.decode bytes with
    | .ok text => .ok (.str text)
    | .error fault => .error (.invalid ("utf8 error: " ++ fault.message))

def isPunctuation (c : Char) : Bool :=
  let n := c.toNat
  (0x21 ≤ n && n ≤ 0x2F) || (0x3A ≤ n && n ≤ 0x40) || (0x5B ≤ n && n ≤ 0x60) ||
    (0x7B ≤ n && n ≤ 0x7E)

/-- Every word starts with a capital; blanks and punctuation divide words. -/
def titleFrom (start : Bool) : List Char → List Char
  | [] => []
  | c :: rest =>
    if isPunctuation c || Text.isBlank c then c :: titleFrom true rest
    else (if start then Text.upperChar c else Text.lowerChar c) ++ titleFrom false rest

def title (text : String) : String :=
  String.ofList (titleFrom true text.toList)

def capitalize (text : String) : String :=
  match text.toList with
  | [] => ""
  | c :: rest => String.ofList (Text.upperChar c) ++ Text.lower (String.ofList rest)

/-- Takes blanks, or the given characters, off both ends. -/
def trim (text : String) (characters : Option String) : String :=
  match characters with
  | none => Text.trim text
  | some characters =>
    let inside (c : Char) := characters.toList.contains c
    String.ofList (((text.toList.dropWhile inside).reverse.dropWhile inside).reverse)

def escapeChar (c : Char) : String :=
  match c with
  | '<' => "&lt;"
  | '>' => "&gt;"
  | '&' => "&amp;"
  | '\"' => "&quot;"
  | '\'' => "&#x27;"
  | '/' => "&#x2f;"
  | c => c.toString

def escape (text : String) : String :=
  String.join (text.toList.map escapeChar)

/-- Cuts one line end off the end of a text. -/
def dropLineEnd (text : List Char) : List Char :=
  let text := if text.getLast? == some '\n' then text.dropLast else text
  if text.getLast? == some '\r' then text.dropLast else text

/-- Moves lines to the right: the first one and empty ones only if asked for. -/
def indent (text : String) (width : Nat) (first blank : Bool) : String :=
  let margin := List.replicate width ' '
  let indented (line : List Char) : List Char :=
    if line.isEmpty && !blank then line else margin ++ line
  let lines := match Text.splitFrom ['\n'] [] 0 (dropLineEnd text.toList) with
    | [] => []
    | line :: rest => (if first then indented line else line) :: rest.map indented
  String.ofList (dropLineEnd (lines.flatMap (· ++ ['\n'])))

def absolute (value : Value) : Except Fault Value :=
  match value with
  | .int n => .ok (.int n.natAbs)
  | .float x => .ok (.float x.abs)
  | _ => .error (.invalid "cannot get absolute value")

/-- Rounds a float to a number of decimal places; integers stay as they are. -/
def round (value : Value) (places : Int) : Except Fault Value :=
  match value with
  | .int n => .ok (.int n)
  | .float x =>
    let scale := Float.pow 10.0 (Value.floatOfInt places)
    .ok (.float ((scale * x).round / scale))
  | value => .error (.invalid ("cannot round value (" ++ value.kind ++ ")"))

def length (value : Value) : Except Fault Value :=
  match value.length? with
  | some n => .ok (.int n)
  | none => .error (.invalid ("cannot calculate length of value of type " ++ value.kind))

/-- The filters on single values, by name. -/
def scalar? (name : String) (value : Value) (arguments : List Value) :
    Option (Except Fault Value) :=
  let plain (result : Except Fault Value) := some (Argument.upTo 0 arguments result)
  let optional := Argument.optional 0 arguments
  match name with
  | "int" => plain (.ok (int value))
  | "float" => plain (.ok (float value))
  | "bool" => plain (.ok (bool value))
  | "default" => some (Argument.upTo 1 arguments (.ok (default value optional)))
  | "d" => some (Argument.upTo 1 arguments (.ok (default value optional)))
  | "tojson" => plain (toJson value)
  | "to_json" => plain (toJson value)
  | "fromjson" => plain (fromJson value)
  | "from_json" => plain (fromJson value)
  | "split" => some (Argument.upTo 1 arguments (.ok (split value optional)))
  | "b64encode" => plain (.ok (base64Encode value))
  | "b64decode" => plain (base64Decode value)
  | "upper" => plain (.ok (.str (Text.upper value.text)))
  | "lower" => plain (.ok (.str (Text.lower value.text)))
  | "title" => plain (.ok (.str (title value.text)))
  | "capitalize" => plain (.ok (.str (capitalize value.text)))
  | "trim" =>
    some (Argument.upTo 1 arguments (.ok (.str (trim value.text (optional.map Value.text)))))
  | "replace" => some do
    let pattern ← Argument.required 0 arguments
    let replacement ← Argument.required 1 arguments
    Argument.upTo 2 arguments (.ok (.str (Text.replace pattern.text replacement.text value.text)))
  | "indent" => some do
    let width ← Argument.count (← Argument.required 0 arguments)
    Argument.upTo 3 arguments (.ok (.str
      (indent value.text width (Argument.flag 1 arguments) (Argument.flag 2 arguments))))
  | "lines" => plain (.ok (.list ((Text.lines value.text).map .str)))
  | "escape" => plain (.ok (.str (escape value.text)))
  | "e" => plain (.ok (.str (escape value.text)))
  | "safe" => plain (.ok (.str value.text))
  | "string" => plain (.ok (.str value.text))
  | "pprint" => plain (.ok (.str (value.spread "")))
  | "abs" => plain (absolute value)
  | "round" => some (Argument.upTo 1 arguments (round value ((optional.bind Value.index?).getD 0)))
  | "length" => plain (length value)
  | "count" => plain (length value)
  | _ => none

end Playbook.Template.Filter
