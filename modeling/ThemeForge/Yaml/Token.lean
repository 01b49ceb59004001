import ThemeForge.Text.Code

/-!
# Tokens of YAML

The tokens of a YAML stream: marks that open and close block collections, the indicators of the
written text, node properties and scalars.
-/

namespace ThemeForge.Yaml

/-- A token. A tag is a handle, absent in the verbatim form, and a suffix. -/
inductive Token
  | versionDirective (major : Nat)
  | tagDirective (handle start : Text)
  | otherDirective
  | documentStart
  | documentEnd
  | blockSequenceStart
  | blockMappingStart
  | blockEnd
  | flowSequenceStart
  | flowSequenceEnd
  | flowMappingStart
  | flowMappingEnd
  | blockEntry
  | flowEntry
  | key
  | value
  | alias (name : Text)
  | anchor (name : Text)
  | tag (handle : Option Text) (suffix : Text)
  | scalar (text : Text) (plain : Bool)
deriving DecidableEq, Repr

namespace Token

/-- A directive of any kind. -/
def isDirective : Token → Bool
  | .versionDirective _ | .tagDirective _ _ | .otherDirective => true
  | _ => false

end Token

end ThemeForge.Yaml
