/-
  Rubric.Template.Registry

  The templates that are known, by name and in order.
-/
import Rubric.Template.Rule
import Rubric.Failure

namespace Rubric

/-- Templates in the order in which their names were first added. -/
structure Registry where
  templates : List Template := []
deriving Inhabited

namespace Registry

/-- A registry without templates. -/
def empty : Registry := ⟨[]⟩

/-- Puts a template in the place of one with the same name, or at the end. -/
def insert (template : Template) : List Template → List Template
  | [] => [template]
  | t :: rest => if t.name = template.name then template :: rest else t :: insert template rest

/-- Adds a template; one with the same name gives way to it. -/
def add (registry : Registry) (template : Template) : Registry :=
  ⟨insert template registry.templates⟩

/-- The template of a name. -/
def get? (registry : Registry) (name : String) : Option Template :=
  registry.templates.find? fun t => t.name = name

/-- The template of a name, which has to be there. -/
def require (registry : Registry) (name : String) : Except Failure Template :=
  match registry.get? name with
  | some template => .ok template
  | none => .error (Failure.ofText s!"Template \"{name}\" not found")

/-- The names in order. -/
def names (registry : Registry) : List String :=
  registry.templates.map Template.name

/-- The number of templates. -/
def size (registry : Registry) : Nat :=
  registry.templates.length

end Registry

end Rubric
