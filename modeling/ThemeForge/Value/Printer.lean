import ThemeForge.Number.Shortest
import ThemeForge.Text.Quoted
import ThemeForge.Value.Basic

/-!
# Written values

A value has two written forms. In the plain form a text stands for itself; in the quoted form, and
inside collections always, it is quoted.

* `Value.quoted`: the form in collections and messages;
* `Value.plain`: the form in output;
* `Value.isWritable`: whether a value is written out where long integers are refused;
* `Value.isWithin`: whether it is written out where only so many levels can be nested.
-/

namespace ThemeForge

/-- A byte inside quotes of the kind `q`. -/
def quotedByte (q : Code) (b : UInt8) : Text :=
  let c := Code.ofNat b.toNat
  if c = q ∨ c = '\\' then ['\\', c]
  else if c = '\n' then "\\n"
  else if c = '\r' then "\\r"
  else if c = '\t' then "\\t"
  else if 0x20 ≤ b && b < 0x7f then [c]
  else "\\x" ++ Text.hex 2 b.toNat

/-- A byte string in quotes. -/
def quotedBytes (bytes : Bytes) : Text :=
  let q := Text.quoteMark (bytes.map fun b => Code.ofNat b.toNat)
  "b" ++ [q] ++ bytes.flatMap (quotedByte q) ++ [q]

/-- Numbers in parentheses after a name. -/
def application (name : Text) (arguments : List Text) : Text :=
  name ++ "(" ++ Text.join ", " arguments ++ ")"

/-- A moment in the quoted form; seconds and microseconds are left out when zero. -/
def Moment.quoted (m : Moment) : Text :=
  let fields := [m.date.year, m.date.month, m.date.day, m.hour, m.minute]
  let small := if m.micro ≠ 0 then [m.second, m.micro] else if m.second ≠ 0 then [m.second] else []
  let zone := match m.offset with
    | none => []
    | some 0 => [("tzinfo=datetime.timezone.utc" : Text)]
    | some s =>
      let days : Int := if s < 0 then -1 else 0
      let rest := (s - days * 86400).toNat
      let delta := application "datetime.timedelta"
        ((if days < 0 then [("days=-1" : Text)] else [])
          ++ [("seconds=" : Text) ++ Text.ofNat rest])
      ["tzinfo=" ++ application "datetime.timezone" [delta]]
  application "datetime.datetime" ((fields ++ small).map Text.ofNat ++ zone)

namespace Value

mutual

/-- The quoted form. -/
def quoted : Value → Text
  | .null => "None"
  | .bool b => if b then "True" else "False"
  | .int n => Text.ofInt n
  | .float d => d.text
  | .text t => t.quote
  | .bytes b => quotedBytes b
  | .date d => application "datetime.date" [Text.ofNat d.year, Text.ofNat d.month, Text.ofNat d.day]
  | .moment m => m.quoted
  | .list items => "[" ++ quotedItems items ++ "]"
  | .tuple [v] => "(" ++ v.quoted ++ ",)"
  | .tuple items => "(" ++ quotedItems items ++ ")"
  | .set [] => "set()"
  | .set items => "\x7b" ++ quotedItems items ++ "\x7d"
  | .mapping entries => "\x7b" ++ quotedEntries entries ++ "\x7d"

/-- The quoted forms of items, separated by commas. -/
def quotedItems : List Value → Text
  | [] => []
  | [v] => v.quoted
  | v :: rest => v.quoted ++ ", " ++ quotedItems rest

/-- The quoted forms of entries, separated by commas. -/
def quotedEntries : List (Value × Value) → Text
  | [] => []
  | [(k, v)] => k.quoted ++ ": " ++ v.quoted
  | (k, v) :: rest => k.quoted ++ ": " ++ v.quoted ++ ", " ++ quotedEntries rest

end

/-- The most digits of an integer where long ones are refused. -/
def maxDigits : Nat := 4300

mutual

/-- Whether no integer in a value is too long to be written out. -/
def isWritable : Value → Bool
  | .int n => n.natAbs < Nat.pow 10 maxDigits
  | .list items => areWritable items
  | .tuple items => areWritable items
  | .set items => areWritable items
  | .mapping entries => areEntriesWritable entries
  | _ => true

/-- Whether no integer in the values is too long to be written out. -/
def areWritable : List Value → Bool
  | [] => true
  | v :: rest => isWritable v && areWritable rest

/-- Whether no integer in the keys and values is too long to be written out. -/
def areEntriesWritable : List (Value × Value) → Bool
  | [] => true
  | (k, v) :: rest => isWritable k && isWritable v && areEntriesWritable rest

end

/-- Whether collections in a value are nested at most `n` levels deep. -/
def isWithin : Nat → Value → Bool
  | n + 1, .list items => items.all (isWithin n)
  | n + 1, .tuple items => items.all (isWithin n)
  | n + 1, .set items => items.all (isWithin n)
  | n + 1, .mapping entries => entries.all fun e => isWithin n e.1 && isWithin n e.2
  | 0, .list _ => false
  | 0, .tuple _ => false
  | 0, .set _ => false
  | 0, .mapping _ => false
  | _, _ => true

/-- The plain form. -/
def plain : Value → Text
  | .text t => t
  | .date d => d.text
  | .moment m => m.text ' '
  | v => v.quoted

end Value

end ThemeForge
