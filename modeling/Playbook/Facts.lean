import Playbook.Json.Basic

/-!
# Facts

The variables of a run. One store serves every element, loop iteration and included file: a task's
output is registered here, and a loop binds its current item here.
-/

namespace Playbook

abbrev Facts := SortedMap Json

namespace Facts

/-- The name of the current item of a loop. -/
def loopItem : String := "item"

/-- Puts every field of a configuration in; a later write wins. -/
def merge (facts : Facts) (fields : List (String × Json)) : Facts :=
  facts.insertMany fields

def same (first second : Facts) : Bool :=
  Json.sameFields first.entries second.entries

/-- The facts as they are shown. -/
def describe (facts : Facts) : String :=
  "\x7b" ++ ", ".intercalate (Json.inspectFields facts.entries) ++ "\x7d"

end Facts

end Playbook
