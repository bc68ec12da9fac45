import Playbook.Template.Rendering
import Playbook.Template.Resolver

/-!
# The resolver of templates

Texts without an opening mark are left as they are; others are rendered.
-/

namespace Playbook.Template

def description : String := "JinjaResolver \x7b .. \x7d"

def resolver : Resolver := fun text facts ↦
  if isTemplate text then
    (render text facts).mapError fun fault ↦ ⟨text, fault.message⟩
  else .ok text

end Playbook.Template
