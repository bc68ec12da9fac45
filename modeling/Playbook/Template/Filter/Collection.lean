import Playbook.Template.Filter.Argument
import Playbook.Template.Operation
import Playbook.Text.CaseMap

/-!
# Filters on lists and maps

Sorting keeps the order of equal items. Texts are compared without regard to case unless asked
otherwise.
-/

namespace Playbook.Template.Filter

/-- What a value is compared by. -/
def sortKey (caseSensitive : Bool) (value : Value) : Value :=
  match value with
  | .str text => .str (if caseSensitive then text else Text.lower text)
  | value => value

def precedes (caseSensitive : Bool) (a b : Value) : Bool :=
  (Value.compare (sortKey caseSensitive a) (sortKey caseSensitive b)).isLE

/-- Sorts items by their keys. -/
def sortByKey (caseSensitive backwards : Bool) (items : List (Value × Value)) : List Value :=
  let sorted := items.mergeSort fun a b ↦ precedes caseSensitive a.1 b.1
  (if backwards then sorted.reverse else sorted).map (·.2)

/-- Keeps the first of the items that have equal keys. -/
def uniqueFrom (caseSensitive : Bool) (seen : List Value) : List (Value × Value) → List Value
  | [] => []
  | (key, item) :: rest =>
    let key := sortKey caseSensitive key
    if seen.any fun other ↦ Value.compare key other == .eq then uniqueFrom caseSensitive seen rest
    else item :: uniqueFrom caseSensitive (key :: seen) rest

/-- Pairs every item with what stands at a path in it, or with itself. -/
def keyed (place : Option Value) (items : List Value) :
    Except Fault (List (Value × Value)) :=
  match place with
  | none => .ok (items.map fun item ↦ (item, item))
  | some place => items.mapM fun item ↦
    (Argument.path (Text.split "." place.text) item).map fun key ↦ (key, item)

def sort (value : Value) (named : List (String × Value)) : Except Fault Value :=
  Argument.knowing ["reverse", "attribute", "case_sensitive"] named do
    let pairs ← keyed (Argument.named? "attribute" named) (← Argument.items value)
    return .list (sortByKey (Argument.namedFlag "case_sensitive" named)
      (Argument.namedFlag "reverse" named) pairs)

def unique (value : Value) (named : List (String × Value)) : Except Fault Value :=
  Argument.knowing ["attribute", "case_sensitive"] named do
    let pairs ← keyed (Argument.named? "attribute" named) (← Argument.items value)
    return .list (uniqueFrom (Argument.namedFlag "case_sensitive" named) [] pairs)

def pairItems (entries : List (Value × Value)) : Value :=
  .list (entries.map fun entry ↦ .list [entry.1, entry.2])

def items (value : Value) : Except Fault Value :=
  match value with
  | .map entries => .ok (pairItems entries)
  | _ => .error (.invalid "cannot convert value into pair list")

def dictionarySort (value : Value) (named : List (String × Value)) : Except Fault Value :=
  Argument.knowing ["by", "reverse", "case_sensitive"] named <|
    match value with
    | .map entries =>
      let byValue := (Argument.named? "by" named).any fun order ↦ order.text == "value"
      let pairs := entries.map fun entry ↦
        (if byValue then entry.2 else entry.1, Value.list [entry.1, entry.2])
      .ok (.list (sortByKey (Argument.namedFlag "case_sensitive" named)
        (Argument.namedFlag "reverse" named) pairs))
    | _ => .error (.invalid "cannot convert value into pair list")

/-- Joins texts; the separator is left out as long as nothing but empty texts came. -/
def join (separator : String) (items : List Value) : String :=
  items.foldl (fun text item ↦
    (if text.isEmpty then text else text ++ separator) ++ item.text) ""

def joined (value separator : Value) : Except Fault Value :=
  if value.isAbsent then .ok (.str "")
  else match value.items? with
    | some found => .ok (.str (join separator.text found))
    | none => .error (.invalid ("cannot join value of type " ++ value.kind))

def first (value : Value) : Except Fault Value :=
  match value.items? with
  | some found => .ok (found.head?.getD .undefined)
  | none => .error (.invalid "cannot get first item from value")

def last (value : Value) : Except Fault Value :=
  match value with
  | .map _ => .error (.invalid "cannot get last item from value")
  | value =>
    match value.items? with
    | some found => .ok (found.getLast?.getD .undefined)
    | none => .error (.invalid "cannot get last item from value")

/-- The item that no other one is better than; the first of several. -/
def best (better : Value → Value → Bool) (value : Value) : Except Fault Value := do
  match ← Argument.items value with
  | [] => return .undefined
  | item :: rest =>
    return rest.foldl (fun found item ↦ if better item found then item else found) item

def least : Value → Except Fault Value :=
  best fun item found ↦ Value.compare item found == .lt

def greatest : Value → Except Fault Value :=
  best fun item found ↦ Value.compare item found != .lt

def reverse (value : Value) : Except Fault Value :=
  match value with
  | .str text => .ok (.str (String.ofList text.toList.reverse))
  | .undefined => .ok .undefined
  | .none => .ok .none
  | value =>
    match value.items? with
    | some found => .ok (.list found.reverse)
    | none => .error (.invalid ("cannot reverse values of type " ++ value.kind))

def sum (value : Value) : Except Fault Value := do
  (← Argument.items value).foldlM (fun total item ↦
    match item with
    | .undefined => .ok total
    | .int n => Operation.add total (.int n)
    | .float x => Operation.add total (.float x)
    | item => .error (.invalid ("can only sum numbers, got " ++ item.kind))) (.int 0)

/-- Fills a group up to `count` items. -/
def filled (count : Nat) (filler : Option Value) (group : List Value) : List Value :=
  match filler with
  | some filler => group ++ List.replicate (count - group.length) filler
  | none => group

/-- Groups of `count` items; `group` is the reversed start of one. -/
def groupsFrom (count : Nat) (group : List Value) : List Value → List (List Value)
  | [] => if group.isEmpty then [] else [group.reverse]
  | item :: rest =>
    if group.length == count then group.reverse :: groupsFrom count [item] rest
    else groupsFrom count (item :: group) rest

def batch (value : Value) (count : Nat) (filler : Option Value) : Except Fault Value := do
  let found ← Argument.items value
  if count == 0 then .error (.invalid "count cannot be 0")
  else return .list ((groupsFrom count [] found).map fun group ↦ .list (filled count filler group))

/-- As many groups as `count` tells, the first ones longer by one if they must be; the others end
with the filler. -/
def slices (value : Value) (count : Nat) (filler : Option Value) : Except Fault Value := do
  let found ← Argument.items value
  if count == 0 then .error (.invalid "count cannot be 0")
  else
    let size := found.length / count
    let longer := found.length % count
    let group (i : Nat) : Value :=
      let rest := found.drop (i * size + min i longer)
      .list (if i < longer then rest.take (size + 1) else rest.take size ++ filler.toList)
    return .list ((List.range count).map group)

/-- Gathers neighbours with equal keys; a group is its key and its items. -/
def gather (caseSensitive : Bool) : List (Value × Value) → List (Value × List Value)
  | [] => []
  | (key, item) :: rest =>
    match gather caseSensitive rest with
    | (other, items) :: groups =>
      if Value.compare (sortKey caseSensitive key) (sortKey caseSensitive other) == .eq then
        (key, item :: items) :: groups
      else (key, [item]) :: (other, items) :: groups
    | [] => [(key, [item])]

def groupBy (value : Value) (positional : List Value) (named : List (String × Value)) :
    Except Fault Value :=
  Argument.knowing ["attribute", "default", "case_sensitive"] named do
    let place ← Argument.required 0 (positional ++ (Argument.named? "attribute" named).toList)
    let caseSensitive := Argument.namedFlag "case_sensitive" named
    let pairs ← keyed (some place) (← Argument.items value)
    let fallback := (Argument.named? "default" named).getD .undefined
    let pairs := pairs.map fun (key, item) ↦ (if key.rank == 0 then fallback else key, item)
    let sorted := pairs.mergeSort fun a b ↦ precedes caseSensitive a.1 b.1
    return .list ((gather caseSensitive sorted).map fun group ↦ .list [group.1, .list group.2])

def chain (value : Value) (others : List Value) : Except Fault Value := do
  let lists ← (value :: others).mapM Argument.items
  return .list lists.flatten

/-- The lists of the first items, of the second items and so on, while all lists have one. -/
def zip (value : Value) (others : List Value) : Except Fault Value := do
  let lists ← (value :: others).mapM Argument.items
  let count := ((lists.map List.length).min?).getD 0
  return .list ((List.range count).map fun i ↦ .list (lists.filterMap (·[i]?)))

/-- The filters on collections that call no other filter, by name. -/
def collection? (name : String) (value : Value) (arguments : List Value) :
    Option (Except Fault Value) :=
  let plain (result : Except Fault Value) := some (Argument.upTo 0 arguments result)
  let (positional, named) := Argument.split arguments
  let grouping (f : Value → Nat → Option Value → Except Fault Value) := some do
    let count ← Argument.count (← Argument.required 0 arguments)
    Argument.upTo 2 arguments (f value count (Argument.optional 1 arguments))
  match name with
  | "sort" => some (Argument.upTo 0 positional (sort value named))
  | "unique" => some (Argument.upTo 0 positional (unique value named))
  | "items" => plain (items value)
  | "dictsort" => some (Argument.upTo 0 positional (dictionarySort value named))
  | "join" =>
    some (Argument.upTo 1 arguments (joined value ((Argument.optional 0 arguments).getD (.str ""))))
  | "first" => plain (first value)
  | "last" => plain (last value)
  | "min" => plain (least value)
  | "max" => plain (greatest value)
  | "reverse" => plain (reverse value)
  | "list" => plain ((Argument.items value).map .list)
  | "sum" => plain (sum value)
  | "batch" => grouping batch
  | "slice" => grouping slices
  | "groupby" => some (Argument.upTo 1 positional (groupBy value positional named))
  | "attr" => some do
    let key ← Argument.required 0 arguments
    Argument.upTo 1 arguments (Argument.path [key.text] value)
  | "chain" => some (chain value arguments)
  | "zip" => some (zip value arguments)
  | _ => none

end Playbook.Template.Filter
