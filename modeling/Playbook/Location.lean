/-!
# Places in a document

The way from the root of a document to one of its nodes, as errors show it.
-/

namespace Playbook

namespace Location

inductive Step where
  | index (position : Nat)
  | key (name : String)
  /-- A place with a name of its own. -/
  | named (name : String)
  deriving DecidableEq, Repr

def Step.text : Step → String
  | .index position => "[" ++ toString position ++ "]"
  | .key name => "." ++ name
  | .named name => name

end Location

/-- The steps from the root on. -/
abbrev Location := List Location.Step

namespace Location

def text (location : Location) : String :=
  String.join (location.map Step.text)

def document : Location := [.named "<document>"]

def item (location : Location) (position : Nat) : Location :=
  location ++ [.index position]

def field (location : Location) (name : String) : Location :=
  location ++ [.key name]

end Location

end Playbook
