import ThemeForge.Failure.Crash
import ThemeForge.Schema.Checked

/-!
# The format of configurations

The text of a configuration is read by one library and its value is checked by another. Which value
a text has is up to the reader. What the program relies on is only that there are three outcomes: a
value, a report that the text is malformed, or a failure of the reader. A report about a value that
does not fit the schema is worded by the checker.

* `Configuration.Format`: what is read of a text, the wording of a report, and how deep a value may
  be nested to be written.
-/

namespace ThemeForge.Configuration

/-- Why a text has no value: it is malformed, as reported, or the reader fails. -/
inductive Format.Fault
  | malformed (report : Text)
  | crash (c : Crash)
deriving DecidableEq, Repr

/-- A format of configurations. An empty text is null; for a value that contains itself, `load?`
gives an unfolding of it that is deeper than the schema looks. -/
class Format where
  load? : Text → Except Format.Fault Value
  report : Value → List Problem → Text
  maxDepth : Nat

end ThemeForge.Configuration
