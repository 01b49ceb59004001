import ThemeForge.Console.Terminal
import ThemeForge.Json.Carried
import ThemeForge.Settings.Format
import ThemeForge.Template.Expansion
import ThemeForge.Yaml.Value

/-!
# The platform

The libraries under the program, as far as they are written down here. What holds of the program
whatever the libraries do is stated without this module.

* Templates are those of Jinja2 with the tags `if`, `for`, `set` and `include`, operators, and the
  filters and tests of `Filter` and `Predicate`. Left out are macros, inheritance, imports, `with`,
  `call`, `filter` and `autoescape`, recursive loops, methods, slices, global functions, complex
  numbers and all other filters and tests. Some of these would make an expansion a matter of chance
  or time.
* Configurations are YAML as PyYAML loads it safely. Left out are nodes that contain themselves,
  limits on the depth of nesting, and digits outside ASCII in tagged numbers. A report says nothing
  about where a document is malformed.
* Values are written up to a depth of 1000, which is how deep calls can be nested by default.
* Terminals are those of rich and click for output that nobody watches: no colours, no codes for
  pictures, and lines of any width.
-/

namespace ThemeForge

/-! ## Templates -/

namespace Template

/-- A source that is refused; a long integer is not refused, but makes the reader fail. -/
def LoadFault.ofSource (f : SourceFault) : LoadFault :=
  match f.problem with
  | .longInteger _ => .crash ⟨"ValueError", f.problem.message⟩
  | _ => .source f

instance standardEngine : Engine where
  check? source := ((statements? source).map fun _ => ()).mapError .ofSource
  expand? := run?

end Template

/-! ## Configurations -/

namespace Configuration

/-- What the reader of documents says about a fault. -/
def Format.Fault.ofYaml : Yaml.Fault → Format.Fault
  | .malformed => .malformed []
  | .scalar f => .crash ⟨f.kind, f.message⟩

/-- The lines for a problem: where it is, and what it is. -/
def problemLines (p : Problem) : Text := Text.concat
  ["\n", Text.join "." p.path, "\n  ", p.cause.message, " [type=", p.cause.tag, "]"]

/-- The report about problems. -/
def problemReport (ps : List Problem) : Text := Text.concat
  ([Text.ofNat ps.length, if ps.length = 1 then " validation error" else " validation errors"]
    ++ ps.map problemLines)

instance standardFormat : Format where
  load? t := (Yaml.load? t).mapError .ofYaml
  report _ := problemReport
  maxDepth := 1000

end Configuration

/-! ## Lines of the log -/

instance Json.standardWriter : Json.Writer where
  maxDepth := 1000

/-! ## Terminals -/

instance Terminal.standard : Terminal where
  isInteractive := false
  layout _ t := Text.concat [t.literal.shown, "\n"]
  table t := t.unmarked.render

end ThemeForge
