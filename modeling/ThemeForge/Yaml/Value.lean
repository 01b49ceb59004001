import ThemeForge.Number.Numeral
import ThemeForge.Text.Base64
import ThemeForge.Value.Basic
import ThemeForge.Yaml.Node

/-!
# From nodes to values

The value that a node stands for. Scalars are read according to their tags. Mappings absorb the
mappings they merge, whose entries come first and yield to their own. Faults are looked for level
by level, so that of several the one nearest to the root is reported.

* `scalarValue?`: the value of a scalar;
* `mergedEntries`: the entries of a mapping with what it merges;
* `Node.value?`: the value of a node; `Yaml.load?`: the value of a text.
-/

namespace ThemeForge.Yaml

/-- A scalar that does not fit its tag. -/
def misfit {α : Type} (f : ScalarFault) : Reading α := .error (.scalar f)

/-! ## Scalars -/

/-- The most decimal digits of an integer. -/
def maxDigits : Nat := 4300

/-- The integer a literal spells in a base. -/
def readInteger (base : Nat) (literal : Text) : Reading Int :=
  match Numeral.readDigits? base literal with
  | none => misfit (.integer base literal)
  | some (negative, ds) =>
    if base = 10 ∧ ds.length > maxDigits then misfit (.integerTooLong ds.length)
    else
      let n : Int := Numeral.digitsValue base ds
      .ok (if negative then -n else n)

/-- A value in base sixty. -/
def sixtyValue (parts : List Int) : Int := parts.foldl (fun n p => 60 * n + p) 0

/-- The magnitude that an integer literal without sign spells. -/
def magnitude (t : Text) : Reading Int := do
  match t with
  | [] => misfit .emptyNumber
  | a :: _ =>
    if t = "0" then return 0
    else if t.startsWith "0b" then readInteger 2 (t.drop 2)
    else if t.startsWith "0x" then readInteger 16 (t.drop 2)
    else if a = '0' then readInteger 8 t
    else if t.contains (Code.ofChar ':') then
      return sixtyValue (← (t.splitOn ':').mapM (readInteger 10))
    else readInteger 10 t

/-- A numeral without the underscores that group its digits. -/
def dropBars (t : Text) : Text := t.filter fun c => c != '_'

/-- The integer of a scalar. -/
def integerOf (t : Text) : Reading Int := do
  match dropBars t with
  | [] => misfit .emptyNumber
  | a :: rest =>
    if a = '-' then return -(← magnitude rest)
    else if a = '+' then magnitude rest
    else magnitude (a :: rest)

/-- The float a literal spells. -/
def readFloat (t : Text) : Reading Double :=
  match Numeral.readFloat? t with
  | some d => .ok d
  | none => misfit (.float t)

/-- A sum in base sixty, the last part first. -/
def sixtyFloat (parts : List Double) : Double :=
  let step (acc : Float × Nat) (d : Double) : Float × Nat :=
    (acc.1 + d.toFloat * (Double.ofInt acc.2).toFloat, acc.2 * 60)
  .ofFloat (parts.foldl step ((Double.signed false 0).toFloat, 1)).1

/-- The double with the other sign. -/
def opposite (d : Double) : Double :=
  match d.view with
  | .nan => d
  | .infinite n => .infinity !n
  | .finite n _ _ => .signed (!n) (d.bits.toNat % Nat.pow 2 63)

/-- The magnitude that a float literal without sign spells. -/
def floatMagnitude (t : Text) : Reading Double := do
  if t = ".inf" then return .infinity false
  else if t = ".nan" then return .nan
  else if t.contains (Code.ofChar ':') then
    return sixtyFloat (← (t.splitOn ':').mapM readFloat).reverse
  else readFloat t

/-- The float of a scalar. -/
def floatOf (t : Text) : Reading Double := do
  match (dropBars t).lower with
  | [] => misfit .emptyNumber
  | a :: rest =>
    if a = '-' then return opposite (← floatMagnitude rest)
    else if a = '+' then floatMagnitude rest
    else floatMagnitude (a :: rest)

/-- The words for truth, in lower case. -/
def trueWords : List Text := ["yes", "true", "on"]

/-- The words for falsehood, in lower case. -/
def falseWords : List Text := ["no", "false", "off"]

/-- The boolean of a scalar. -/
def booleanOf (t : Text) : Reading Bool :=
  let word := t.lower
  if trueWords.contains word then .ok true
  else if falseWords.contains word then .ok false
  else misfit (.boolean word)

/-- Data of the calendar. -/
def calendar {α : Type} (x : Except Date.Fault α) : Reading α :=
  x.mapError fun f => .scalar (.calendar f)

/-- The offset of a zone in seconds; it is less than a day. -/
def offsetOf : Option (Option (Bool × Text × Text)) → Reading (Option Int)
  | none => .ok none
  | some none => .ok (some 0)
  | some (some (negative, hours, minutes)) =>
    let n : Int := (60 * Text.toNat hours + Text.toNat minutes) * 60
    let seconds := if negative then -n else n
    if seconds ≤ -86400 ∨ 86400 ≤ seconds then misfit (.offset seconds) else .ok (some seconds)

/-- The day or moment of a scalar. -/
def timestampOf (t : Text) : Reading Value := do
  match stamp? (withoutFeed t) with
  | none => misfit .timestamp
  | some s =>
    let day := Date.make? (Text.toNat s.year) (Text.toNat s.month) (Text.toNat s.day)
    match s.time with
    | none => return .date (← calendar day)
    | some (hour, minute, second, fraction) =>
      let offset ← offsetOf (s.zone)
      let day ← calendar day
      let zeros := List.replicate (6 - fraction.length) (Code.ofChar '0')
      let micro := Text.toNat (fraction.take 6 ++ zeros)
      return .moment (← calendar (Moment.make? day (Text.toNat hour) (Text.toNat minute)
        (Text.toNat second) micro offset))

/-- The bytes of a scalar. -/
def binaryOf (t : Text) : Reading Bytes :=
  if t.all (fun c => c.val < 0x80) then
    match Base64.decode? t with
    | some b => .ok b
    | none => malformed
  else malformed

/-- The value of a scalar; tags of collections and unknown tags have none. -/
def scalarValue? (tag : Tag) (t : Text) : Reading Value := do
  match tag with
  | .null => return .null
  | .bool => return .bool (← booleanOf t)
  | .int => return .int (← integerOf t)
  | .float => return .float (← floatOf t)
  | .binary => return .bytes (← binaryOf t)
  | .timestamp => timestampOf t
  | .text => return .text t
  | _ => malformed

/-! ## Collections -/

namespace Node

/-- The tag of a node. -/
def tag : Node → Tag
  | .scalar t _ => t
  | .sequence t _ => t
  | .mapping t _ => t

mutual

/-- The number of nodes. -/
def size : Node → Nat
  | .scalar _ _ => 1
  | .sequence _ items => sizeItems items + 1
  | .mapping _ entries => sizeEntries entries + 1

/-- The number of nodes in items. -/
def sizeItems : List Node → Nat
  | [] => 0
  | n :: rest => size n + sizeItems rest

/-- The number of nodes in entries. -/
def sizeEntries : List (Node × Node) → Nat
  | [] => 0
  | (k, v) :: rest => size k + size v + sizeEntries rest

end

/-- The text of a node that is read as a scalar: a mapping gives the text at its value key. -/
def scalarText? : Nat → Node → Option Text
  | 0, _ => none
  | _, .scalar _ t => some t
  | fuel + 1, .mapping _ entries =>
    match entries.find? fun e => e.1.tag == .value with
    | some e => scalarText? fuel e.2
    | none => none
  | _, .sequence _ _ => none

/-- Whether the value of a node is built from other values. -/
def isCollection (n : Node) : Bool :=
  match n.tag with
  | .sequence | .mapping | .set | .orderedMapping | .pairs => true
  | _ => false

/-- The value of a node that is read as a scalar. -/
def scalar? (n : Node) : Reading Value :=
  match n.tag with
  | .merge | .value | .other => malformed
  | tag =>
    match scalarText? (n.size + 1) n with
    | some t => scalarValue? tag t
    | none => malformed

end Node

/-- A key that is the sign for a value counts as a text. -/
def plainKey : Node → Node
  | .scalar .value t => .scalar .text t
  | n => n

/-- The entries of a mapping without merge keys, after the entries of what it merges. -/
def mergedEntries : Nat → List (Node × Node) → Reading (List (Node × Node))
  | 0, _ => malformed
  | fuel + 1, entries => do
    let merged ← entries.mapM fun (k, v) => do
      if k.tag = .merge then
        match v with
        | .mapping _ inner => mergedEntries fuel inner
        | .sequence _ items =>
          let parts ← items.mapM fun
            | .mapping _ inner => mergedEntries fuel inner
            | _ => malformed
          return parts.reverse.flatten
        | .scalar _ _ => malformed
      else return []
    let own := entries.filter fun e => e.1.tag != .merge
    return merged.flatten ++ own.map fun e => (plainKey e.1, e.2)

/-- Checks a node that is met inside a collection: scalars are read at once, collections later. -/
def visit (n : Node) : Reading (List Node) := do
  if n.isCollection then return [n]
  else
    let _ ← n.scalar?
    return []

/-- Checks the entries of a mapping in order; a key must not be a collection. -/
def visitEntries : List (Node × Node) → Reading (List Node)
  | [] => .ok []
  | (k, v) :: rest => do
    if k.isCollection then malformed
    else
      let _ ← visit k
      return (← visit v) ++ (← visitEntries rest)

/-- Checks the entry of an ordered mapping. -/
def visitPair : Node → Reading (List Node)
  | .mapping _ [(k, v)] => do return (← visit k) ++ (← visit v)
  | _ => malformed

/-- Checks what a collection is made of: the collections inside, which remain to be checked. -/
def expand (n : Node) : Reading (List Node) := do
  match n.tag, n with
  | .sequence, .sequence _ items => return (← items.mapM visit).flatten
  | .mapping, .mapping _ entries | .set, .mapping _ entries =>
    visitEntries (← mergedEntries (n.size + 1) entries)
  | .orderedMapping, .sequence _ items | .pairs, .sequence _ items =>
    return (← items.mapM visitPair).flatten
  | _, _ => malformed

/-- Checks a queue of collections in order. -/
def checkQueue : Nat → List Node → Reading Unit
  | _, [] => .ok ()
  | 0, _ => .ok ()
  | fuel + 1, n :: rest => do
    let inner ← expand n
    checkQueue fuel (rest ++ inner)

/-- The values of a key and a value. -/
def valueOfPair (value : Node → Value) : Node → Value
  | .mapping _ [(k, v)] => .tuple [value k, value v]
  | _ => .null

/-- The value of a node that has been checked. -/
def valueOf : Nat → Node → Value
  | 0, _ => .null
  | fuel + 1, n =>
    match n.tag, n with
    | .sequence, .sequence _ items => .list (items.map (valueOf fuel))
    | .mapping, .mapping _ entries =>
      match mergedEntries (n.size + 1) entries with
      | .ok entries => .mapping (entries.foldl
          (fun m e => Value.Mapping.put (valueOf fuel e.1) (valueOf fuel e.2) m) [])
      | .error _ => .null
    | .set, .mapping _ entries =>
      match mergedEntries (n.size + 1) entries with
      | .ok entries => .set ((entries.foldl
          (fun m e => Value.Mapping.put (valueOf fuel e.1) .null m) []).map Prod.fst)
      | .error _ => .null
    | .orderedMapping, .sequence _ items | .pairs, .sequence _ items =>
      .list (items.map (valueOfPair (valueOf fuel)))
    | _, _ =>
      match n.scalar? with
      | .ok v => v
      | .error _ => .null

/-- The value of a node. -/
def Node.value? (n : Node) : Reading Value := do
  let queue ← visit n
  checkQueue ((n.size + 1) * (n.size + 1)) queue
  return valueOf (n.size + 1) n

/-- The value of a text; an empty stream is null. -/
def load? (t : Text) : Reading Value := do
  let (ts, fault) := tokens t
  match ← Node.ofTokens? ts fault with
  | some n => n.value?
  | none => return .null

end ThemeForge.Yaml
