import ThemeForge.Value.Calendar
import ThemeForge.Text.Quoted

/-!
# Faults of YAML documents

Either the document is malformed, whatever the detail, or it is well formed and one of its scalars
does not fit the tag it carries.

* `Yaml.Fault`, `Yaml.ScalarFault`: the faults;
* `Yaml.ScalarFault.kind`, `Yaml.ScalarFault.message`: how a scalar fault is known.
-/

namespace ThemeForge.Yaml

/-- A scalar that does not fit its tag. -/
inductive ScalarFault
  | integer (base : Nat) (literal : Text)
  | integerTooLong (digits : Nat)
  | emptyNumber
  | float (literal : Text)
  | boolean (word : Text)
  | timestamp
  | calendar (f : Date.Fault)
  | offset (seconds : Int)
  | codePoint
  | hugeCodePoint
deriving DecidableEq, Repr

/-- Why a document gives no value. -/
inductive Fault
  | malformed
  | scalar (f : ScalarFault)
deriving DecidableEq, Repr

/-- A distance in time, in the quoted form. -/
def quotedDistance (seconds : Int) : Text :=
  let days := seconds.fdiv 86400
  let rest := seconds.fmod 86400
  let parts := (if days ≠ 0 then [Text.concat ["days=", Text.ofInt days]] else [])
    ++ if rest ≠ 0 then [Text.concat ["seconds=", Text.ofInt rest]] else []
  Text.concat ["datetime.timedelta(", Text.join ", " parts, ")"]

/-- The kind of a scalar fault. -/
def ScalarFault.kind : ScalarFault → Text
  | .emptyNumber => "IndexError"
  | .boolean _ => "KeyError"
  | .timestamp => "AttributeError"
  | .hugeCodePoint => "OverflowError"
  | _ => "ValueError"

/-- The wording of a scalar fault. -/
def ScalarFault.message : ScalarFault → Text
  | .integer base literal =>
    Text.concat ["invalid literal for int() with base ", Text.ofNat base, ": ",
      literal.quote.take 200]
  | .integerTooLong digits =>
    Text.concat ["Exceeds the limit (4300 digits) for integer string conversion: value has ",
      Text.ofNat digits, " digits; use sys.set_int_max_str_digits() to increase the limit"]
  | .emptyNumber => "string index out of range"
  | .float literal => Text.concat ["could not convert string to float: ", literal.quote]
  | .boolean word => word.quote
  | .timestamp => "'NoneType' object has no attribute 'groupdict'"
  | .calendar f => f.message
  | .offset seconds =>
    Text.concat ["offset must be a timedelta strictly between -timedelta(hours=24) and ",
      "timedelta(hours=24), not ", quotedDistance seconds, "."]
  | .codePoint => "chr() arg not in range(0x110000)"
  | .hugeCodePoint => "Python int too large to convert to C int"

end ThemeForge.Yaml
