import ThemeForge.Text.Code

/-!
# Failures of libraries

The libraries that the program is built on report errors of their own kinds, which the program
expects. Whatever else goes wrong in them is known by its kind and its message alone.

* `Crash`: such a failure.
-/

namespace ThemeForge

/-- A failure that its library does not report as an error of its own: its kind and its message. -/
structure Crash where
  kind : Text
  message : Text
deriving DecidableEq, Repr

end ThemeForge
