import Playbook.Decimal.Reading
import Playbook.Json.Basic

/-!
# Values in templates

What an expression of a template stands for. Values of different kinds have an order by kind, and
numbers are compared by what they are worth, whether they are integers or floats.
-/

namespace Playbook.Template

inductive Value where
  | undefined
  | none
  | bool (value : Bool)
  | int (value : Int)
  | float (value : Float)
  | str (text : String)
  | list (items : List Value)
  /-- Entries in ascending order of their keys. -/
  | map (entries : List (Value × Value))
  /-- The fields of a running loop, with its arguments for `cycle`. -/
  | loop (index length depth : Nat) (previous next : Value)
  /-- A set of variables that assignments may change. -/
  | namespace (id : Nat)
  /-- A macro that the template defines. -/
  | routine (id : Nat) (name : String)
  /-- Named arguments of a call. -/
  | keywords (entries : List (String × Value))
  deriving Inhabited

namespace Value

/-- The kinds of values in their order. -/
def rank : Value → Nat
  | .undefined => 0
  | .none => 1
  | .bool _ => 2
  | .int _ => 3
  | .float _ => 3
  | .str _ => 4
  | .list _ => 6
  | .map _ => 7
  | .keywords _ => 7
  | .namespace _ => 7
  | .loop .. => 9
  | .routine .. => 9

def kind : Value → String
  | .undefined => "undefined"
  | .none => "none"
  | .bool _ => "bool"
  | .int _ => "number"
  | .float _ => "number"
  | .str _ => "string"
  | .list _ => "sequence"
  | .map _ => "map"
  | .keywords _ => "map"
  | .namespace _ => "map"
  | .loop .. => "plain object"
  | .routine .. => "plain object"

def isTrue : Value → Bool
  | .undefined => false
  | .none => false
  | .bool value => value
  | .int value => value != 0
  | .float value => value != 0.0
  | .str text => text != ""
  | .list items => !items.isEmpty
  | .map entries => !entries.isEmpty
  | .keywords entries => !entries.isEmpty
  | _ => true

def isAbsent : Value → Bool
  | .undefined => true
  | .none => true
  | _ => false

/-- The order of floats by their bits: below zero from the greatest magnitude on. -/
def floatKey (x : Float) : Int :=
  let bits := (x.toBits.toNat : Int)
  if bits < Nat.pow 2 63 then bits else Nat.pow 2 63 - 1 - bits

/-- An integer or a boolean as an integer. -/
def int? : Value → Option Int
  | .int value => some value
  | .bool value => some (if value then 1 else 0)
  | _ => Option.none

def floatOfInt (n : Int) : Float :=
  let x := Decimal.nearest n.natAbs 1
  if n < 0 then -x else x

/-- The float equal to an integer, if there is one. -/
def exactFloat? (n : Int) : Option Float :=
  if Decimal.integral? (floatOfInt n) == some n then some (floatOfInt n) else Option.none

def float? : Value → Option Float
  | .float value => some value
  | value => value.int?.map floatOfInt

/-- Two numbers brought to one form. -/
inductive Pair where
  | ints (a b : Int)
  | floats (a b : Float)

/-- Numbers and booleans in one form: floats if one is a float. Where exactness is asked for, an
integer without an exact float has none. -/
def pair? (exact : Bool) (a b : Value) : Option Pair :=
  let toFloat (value : Value) : Option Float :=
    match value with
    | .float x => some x
    | value => value.int?.bind fun n ↦ if exact then exactFloat? n else some (floatOfInt n)
  match a, b with
  | .float x, b => (toFloat b).map (.floats x ·)
  | a, .float y => (toFloat a).map (.floats · y)
  | a, b => a.int?.bind fun m ↦ b.int?.map (.ints m ·)

def compareInts (a b : Int) : Ordering :=
  if a < b then .lt else if b < a then .gt else .eq

def compareTexts (a b : String) : Ordering :=
  if a < b then .lt else if b < a then .gt else .eq

mutual

/-- The order of values: by kind, and within a kind by content. -/
def compare (a b : Value) : Ordering :=
  if a.rank < b.rank then .lt
  else if b.rank < a.rank then .gt
  else match a, b with
    | .str s, .str t => compareTexts s t
    | .list s, .list t => compareItems s t
    | .map s, .map t => compareEntries s t
    | a, b =>
      match pair? true a b with
      | some (.ints m n) => compareInts m n
      | some (.floats x y) => compareInts (floatKey x) (floatKey y)
      | Option.none => .eq
termination_by structural a

def compareItems (a b : List Value) : Ordering :=
  match a, b with
  | [], [] => .eq
  | [], _ :: _ => .lt
  | _ :: _, [] => .gt
  | x :: xs, y :: ys => (compare x y).then (compareItems xs ys)
termination_by structural a

def compareEntries (a b : List (Value × Value)) : Ordering :=
  match a, b with
  | [], [] => .eq
  | [], _ :: _ => .lt
  | _ :: _, [] => .gt
  | (j, x) :: xs, (k, y) :: ys => ((compare j k).then (compare x y)).then (compareEntries xs ys)
termination_by structural a

end

mutual

/-- Equality: numbers and booleans by worth, containers by content. -/
def same (a b : Value) : Bool :=
  match a, b with
  | .undefined, .undefined => true
  | .none, .none => true
  | .str s, .str t => s == t
  | .list s, .list t => sameItems s t
  | .map s, .map t => s.length == t.length && sameEntries s t
  | .namespace m, .namespace n => m == n
  | .routine m _, .routine n _ => m == n
  | a, b =>
    match pair? true a b with
    | some (.ints m n) => m == n
    | some (.floats x y) => x == y
    | Option.none => false
termination_by structural a

def sameItems (a b : List Value) : Bool :=
  match a, b with
  | [], [] => true
  | x :: xs, y :: ys => same x y && sameItems xs ys
  | _, _ => false
termination_by structural a

def sameEntries (a b : List (Value × Value)) : Bool :=
  match a with
  | [] => true
  | (k, x) :: rest => b.any (fun entry ↦ same k entry.1 && same x entry.2) && sameEntries rest b
termination_by structural a

end

/-- Puts an entry into a map, in place of one with the same key. -/
def insertEntry (key value : Value) : List (Value × Value) → List (Value × Value)
  | [] => [(key, value)]
  | entry :: rest =>
    match compare key entry.1 with
    | .lt => (key, value) :: entry :: rest
    | .eq => (entry.1, value) :: rest
    | .gt => entry :: insertEntry key value rest

def ofEntries (entries : List (Value × Value)) : Value :=
  .map (entries.foldl (fun map entry ↦ insertEntry entry.1 entry.2 map) [])

def lookup (key : Value) (entries : List (Value × Value)) : Option Value :=
  (entries.find? (same key ·.1)).map (·.2)

mutual

def ofJson : Json → Value
  | .null => .none
  | .bool value => .bool value
  | .int value => .int value
  | .float value => .float value
  | .str text => .str text
  | .arr items => .list (ofItems items)
  | .obj fields => .map (ofFields fields)

def ofItems : List Json → List Value
  | [] => []
  | item :: rest => ofJson item :: ofItems rest

def ofFields : List (String × Json) → List (Value × Value)
  | [] => []
  | (key, value) :: rest => (.str key, ofJson value) :: ofFields rest

end

/-- The text of a key in a JSON object. -/
def keyText? : Value → Option String
  | .str text => some text
  | .bool value => some (if value then "true" else "false")
  | .int value => some (toString value)
  | .float value =>
    if value.isFinite then some (Decimal.Layout.json.text value) else Option.none
  | _ => Option.none

mutual

/-- The JSON value of a value, if all keys in it have texts. -/
def toJson? : Value → Option Json
  | .undefined => some .null
  | .none => some .null
  | .bool value => some (.bool value)
  | .int value => some (.int value)
  | .float value => some (if value.isFinite then .float value else .null)
  | .str text => some (.str text)
  | .list items => (toItems? items).map .arr
  | .map entries => (toFields? entries).map .obj
  | .keywords entries => (namedFields? entries).map .obj
  | .namespace _ => some (.obj [])
  | .loop .. => some (.str "")
  | .routine _ name => some (.str name)

def toItems? : List Value → Option (List Json)
  | [] => some []
  | item :: rest =>
    match toJson? item, toItems? rest with
    | some item, some rest => some (item :: rest)
    | _, _ => Option.none

def toFields? : List (Value × Value) → Option (List (String × Json))
  | [] => some []
  | (key, value) :: rest =>
    match keyText? key, toJson? value, toFields? rest with
    | some key, some value, some rest => some ((key, value) :: rest)
    | _, _, _ => Option.none

def namedFields? : List (String × Value) → Option (List (String × Json))
  | [] => some []
  | (key, value) :: rest =>
    match toJson? value, namedFields? rest with
    | some value, some rest => some ((key, value) :: rest)
    | _, _ => Option.none

end

def boolText (value : Bool) : String := if value then "True" else "False"

mutual

/-- The text of a value inside a container. -/
def inner : Value → String
  | .undefined => "undefined"
  | .none => "None"
  | .bool value => boolText value
  | .int value => toString value
  | .float value => Decimal.Layout.nested.text value
  | .str text => Text.quote text
  | .list items => "[" ++ innerItems "" items ++ "]"
  | .map entries => "\x7b" ++ innerEntries "" entries ++ "\x7d"
  | .keywords entries => "\x7b" ++ innerNamed "" entries ++ "\x7d"
  | .namespace _ => "\x7b\x7d"
  | .loop index length .. => "<loop " ++ toString index ++ "/" ++ toString length ++ ">"
  | .routine _ name => "<macro " ++ name ++ ">"

def innerItems (separator : String) : List Value → String
  | [] => ""
  | item :: rest => separator ++ inner item ++ innerItems ", " rest

def innerEntries (separator : String) : List (Value × Value) → String
  | [] => ""
  | (key, value) :: rest =>
    separator ++ inner key ++ ": " ++ inner value ++ innerEntries ", " rest

def innerNamed (separator : String) : List (String × Value) → String
  | [] => ""
  | (key, value) :: rest =>
    separator ++ Text.quote key ++ ": " ++ inner value ++ innerNamed ", " rest

end

mutual

/-- The text of a value with one item or entry a line, behind a margin. -/
def spread (margin : String) : Value → String
  | .list (item :: rest) => "[\n" ++ spreadItems (margin ++ "    ") (item :: rest) ++ margin ++ "]"
  | .map (entry :: rest) =>
    "\x7b\n" ++ spreadEntries (margin ++ "    ") (entry :: rest) ++ margin ++ "\x7d"
  | .keywords (entry :: rest) =>
    "\x7b\n" ++ spreadNamed (margin ++ "    ") (entry :: rest) ++ margin ++ "\x7d"
  | value => value.inner

def spreadItems (margin : String) : List Value → String
  | [] => ""
  | item :: rest => margin ++ spread margin item ++ ",\n" ++ spreadItems margin rest

def spreadEntries (margin : String) : List (Value × Value) → String
  | [] => ""
  | (key, value) :: rest =>
    margin ++ inner key ++ ": " ++ spread margin value ++ ",\n" ++ spreadEntries margin rest

def spreadNamed (margin : String) : List (String × Value) → String
  | [] => ""
  | (key, value) :: rest =>
    margin ++ Text.quote key ++ ": " ++ spread margin value ++ ",\n" ++ spreadNamed margin rest

end

/-- The text that a value is printed as. -/
def text : Value → String
  | .undefined => ""
  | .float value => Decimal.Layout.positional.text value
  | .str text => text
  | value => value.inner

/-- The items that a loop over the value visits. -/
def items? : Value → Option (List Value)
  | .undefined => some []
  | .none => some []
  | .str text => some (text.toList.map fun c ↦ .str c.toString)
  | .list items => some items
  | .map entries => some (entries.map (·.1))
  | .keywords entries => some (entries.map fun entry ↦ .str entry.1)
  | _ => Option.none

def length? : Value → Option Nat
  | .str text => some text.length
  | .list items => some items.length
  | .map entries => some entries.length
  | .keywords entries => some entries.length
  | _ => Option.none

/-- The item at a position, which counts from the end if negative. -/
def at? {α : Type} (items : List α) (position : Int) : Option α :=
  if 0 ≤ position then items[position.toNat]?
  else if -position ≤ items.length then items[(items.length + position).toNat]? else Option.none

/-- A number without fraction as an integer. -/
def index? : Value → Option Int
  | .int value => some value
  | .float value => Decimal.integral? value
  | _ => Option.none

def loopField? (index length depth : Nat) (previous next : Value) (name : String) :
    Option Value :=
  match name with
  | "index" => some (.int (index + 1))
  | "index0" => some (.int index)
  | "revindex" => some (.int (length - index : Nat))
  | "revindex0" => some (.int (length - index - 1 : Nat))
  | "first" => some (.bool (index == 0))
  | "last" => some (.bool (index + 1 == length))
  | "length" => some (.int length)
  | "depth" => some (.int (depth + 1))
  | "depth0" => some (.int depth)
  | "previtem" => some previous
  | "nextitem" => some next
  | _ => Option.none

/-- What stands under a key in a value, other than in a set of changing variables. -/
def get? (value key : Value) : Option Value :=
  match value with
  | .map entries => lookup key entries
  | .keywords entries =>
    match key with
    | .str name => Entries.lookup name entries
    | _ => Option.none
  | .list items => key.index?.bind (at? items)
  | .str text => key.index?.bind fun n ↦ (at? text.toList n).map fun c ↦ .str c.toString
  | .loop index length depth previous next =>
    match key with
    | .str name => loopField? index length depth previous next name
    | _ => Option.none
  | _ => Option.none

end Value

end Playbook.Template
