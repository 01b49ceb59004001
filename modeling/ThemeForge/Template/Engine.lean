import ThemeForge.Template.RenderFault

/-!
# The engine of templates

Templates are checked and expanded by an engine, which is not part of the program. All that the
program knows of it is in `Template.Engine`: a source is accepted, refused, or makes the engine
fail, and a template gives a text, a report of what is wrong with it, or another failure. An
expansion comes to an end and has no effects; it is a function of the template, the values and the
templates that it may take from a library, so what is left to chance in it is settled by the engine.

* `Template`, `Template.Library`: templates, and what they can take other templates from;
* `Template.Engine`: what an engine does;
* `Template.compile?`, `Template.expand?`: the engine at work.
-/

namespace ThemeForge

/-- A template that has been checked: its name, if it has one, and its source. -/
structure Template where
  name : Option Text
  source : Text
deriving DecidableEq, Repr

namespace Template

/-- What is found under a name: nothing, a template, or a reason why it cannot be used. -/
abbrev Library := Text → Except RenderFault (Option Template)

/-- An engine: it checks sources, and gives the text of a template for given names, with the names
of the templates that it took from the library. -/
class Engine where
  check? : Text → Except LoadFault Unit
  expand? : Library → Template → List (Text × Value) → Except RenderFault Text × List Text

variable [Engine]

/-- The template of a source. -/
def compile? (name : Option Text) (source : Text) : Except LoadFault Template := do
  Engine.check? source
  return ⟨name, source⟩

/-- The text of a template for given names, and the names of the templates it took from the
library. -/
def expand? (library : Library) (t : Template) (names : List (Text × Value)) :
    Except RenderFault Text × List Text :=
  Engine.expand? library t names

end Template

end ThemeForge
