import ThemeForge.Text.Blank
import ThemeForge.Text.Case

/-!
# Device names

Some systems keep names such as `CON` and `COM1` for devices, in any case, with any extension, and
with spaces before the extension.

* `FileName.devices`: the reserved names;
* `FileName.IsReserved`: a file name that means a device.
-/

namespace ThemeForge.FileName

/-- The digits of numbered devices; the superscripts count as digits too. -/
def deviceDigits : Text := "123456789¹²³"

/-- The device of a kind with a digit. -/
def numbered (kind : Text) (digit : Code) : Text := kind ++ [digit]

/-- The reserved names in upper case. -/
def devices : List Text :=
  (["CON", "PRN", "AUX", "NUL"] : List Text) ++ deviceDigits.map (numbered "COM")
    ++ deviceDigits.map (numbered "LPT")

/-- The part of a file name that is compared with the device names: all before the first dot,
without spaces at its end, in upper case. -/
def deviceKey (name : Text) : Text :=
  (Text.trimEndOf (· == ' ') (name.before '.')).upper

/-- Names a device. -/
def IsReserved (name : Text) : Prop := deviceKey name ∈ devices

instance (name : Text) : Decidable (IsReserved name) := inferInstanceAs (Decidable (_ ∈ _))

end ThemeForge.FileName
