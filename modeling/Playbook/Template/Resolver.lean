import Playbook.Facts
import Playbook.Text.CaseMap
import Playbook.Text.Search

/-!
# Resolvers

A resolver turns a string into a string under the facts. A string is a template when it holds the
opening mark of an expression or of a statement.
-/

namespace Playbook

/-- A template could not be resolved. -/
structure ResolveError where
  template : String
  message : String
  deriving DecidableEq, Repr

def ResolveError.text (error : ResolveError) : String :=
  "Template error in '" ++ error.template ++ "': " ++ error.message

abbrev Resolver := String → Facts → Except ResolveError String

namespace Template

def isTemplate (text : String) : Bool :=
  Text.occurs ['\x7b', '\x7b'] text.toList || Text.occurs ['\x7b', '%'] text.toList

/-- The template that renders `true` when the condition holds and `false` otherwise. -/
def ofCondition (condition : String) : String :=
  "\x7b% if " ++ condition ++ " %\x7dtrue\x7b% else %\x7dfalse\x7b% endif %\x7d"

end Template

namespace Resolver

def identity : Resolver := fun text _ ↦ .ok text

def upper : Resolver := fun text _ ↦ .ok (Text.upper text)

def replacing (pattern replacement : String) : Resolver := fun text _ ↦
  .ok (Text.replace pattern replacement text)

/-- Fails on a text that holds the pattern. -/
def failingOn (pattern : String) : Resolver := fun text _ ↦
  if Text.occurs pattern.toList text.toList then .error ⟨text, "boom"⟩ else .ok text

end Resolver

end Playbook
