import ThemeForge.Number.Double
import ThemeForge.Text.Utf8
import ThemeForge.Value.Calendar

/-!
# Values

The data that configurations and templates are made of.

* `Value`: scalars, lists, tuples, sets and mappings; a mapping keeps its entries in order;
* `Value.same`: equality of the data, by which numbers of different kinds may be equal;
* `Value.Mapping`: entries in order, with look-up (`get?`) and update (`put`);
* `Value.isTruthy`, `Value.kind`: what a condition and a message make of a value;
* `Value.items?`: what a loop goes through.
-/

namespace ThemeForge

/-- A value. -/
inductive Value
  | null
  | bool (b : Bool)
  | int (n : Int)
  | float (d : Double)
  | text (t : Text)
  | bytes (b : Bytes)
  | date (d : Date)
  | moment (m : Moment)
  | list (items : List Value)
  | tuple (items : List Value)
  | set (items : List Value)
  | mapping (entries : List (Value × Value))
deriving Repr, Inhabited

namespace Value

/-- Entries in order of insertion. -/
abbrev Mapping := List (Value × Value)

/-- The kind of a value, as messages name it. -/
def kind : Value → Text
  | .null => "NoneType"
  | .bool _ => "bool"
  | .int _ => "int"
  | .float _ => "float"
  | .text _ => "str"
  | .bytes _ => "bytes"
  | .date _ => "datetime.date"
  | .moment _ => "datetime.datetime"
  | .list _ => "list"
  | .tuple _ => "tuple"
  | .set _ => "set"
  | .mapping _ => "dict"

/-- What counts as true: everything but null, false, zero and what is empty. -/
def isTruthy : Value → Bool
  | .null => false
  | .bool b => b
  | .int n => n != 0
  | .float d => !d.isZero
  | .text t => !t.isEmpty
  | .bytes b => !b.isEmpty
  | .date _ => true
  | .moment _ => true
  | .list items => !items.isEmpty
  | .tuple items => !items.isEmpty
  | .set items => !items.isEmpty
  | .mapping entries => !entries.isEmpty

/-- A boolean or an integer as an integer. -/
def asInt? : Value → Option Int
  | .bool b => some (if b then 1 else 0)
  | .int n => some n
  | _ => none

/-- The items of a value that can be gone through. -/
def items? : Value → Option (List Value)
  | .text t => some (t.map fun c => .text [c])
  | .bytes b => some (b.map fun x => .int x.toNat)
  | .list items => some items
  | .tuple items => some items
  | .set items => some items
  | .mapping m => some (m.map Prod.fst)
  | _ => none

mutual

/-- Equality of data. Booleans count as integers, and an integer equals the double of the same
value. -/
def same : Value → Value → Bool
  | .null, .null => true
  | .text s, .text t => s == t
  | .bytes s, .bytes t => s == t
  | .date d, .date e => d == e
  | .moment m, .moment n => m.offset.isSome == n.offset.isSome && m.instant == n.instant
  | .list s, .list t => sameItems s t
  | .tuple s, .tuple t => sameItems s t
  | .set s, .set t => s.length == t.length && subsetOf s t
  | .mapping s, .mapping t => s.length == t.length && subentries s t
  | .float d, .float e => Double.compare? d e == some .eq
  | .float d, w =>
    match w.asInt? with
    | some n => Double.compareInt? n d == some .eq
    | none => false
  | v, .float e =>
    match v.asInt? with
    | some n => Double.compareInt? n e == some .eq
    | none => false
  | v, w =>
    match v.asInt?, w.asInt? with
    | some m, some n => m == n
    | _, _ => false

/-- Equality of sequences. -/
def sameItems : List Value → List Value → Bool
  | [], [] => true
  | v :: s, w :: t => same v w && sameItems s t
  | _, _ => false

/-- Every item of the first list equals one of the second. -/
def subsetOf : List Value → List Value → Bool
  | [], _ => true
  | v :: s, t => t.any (same v) && subsetOf s t

/-- Every entry of the first list equals one of the second. -/
def subentries : List (Value × Value) → List (Value × Value) → Bool
  | [], _ => true
  | (k, v) :: s, t => t.any (fun e => same k e.1 && same v e.2) && subentries s t

end

mutual

/-- Whether a value may be a key: nothing in it can change. -/
def isKey : Value → Bool
  | .list _ => false
  | .set _ => false
  | .mapping _ => false
  | .tuple items => areKeys items
  | _ => true

/-- Whether all values may be keys. -/
def areKeys : List Value → Bool
  | [] => true
  | v :: rest => isKey v && areKeys rest

end

namespace Mapping

/-- The value at a key. -/
def get? (m : Mapping) (key : Value) : Option Value :=
  (m.find? fun e => same e.1 key).map Prod.snd

/-- The value at a textual key. -/
def getText? (m : Mapping) (key : Text) : Option Value := get? m (.text key)

/-- Sets the value at a key; a new key goes to the end. -/
def put (key value : Value) : Mapping → Mapping
  | [] => [(key, value)]
  | e :: rest => if same e.1 key then (e.1, value) :: rest else e :: put key value rest

end Mapping

end Value

end ThemeForge
