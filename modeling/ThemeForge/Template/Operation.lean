import ThemeForge.Template.Operand
import ThemeForge.Template.Tree

/-!
# Operations of expressions

Arithmetic and comparison of operands. Integers are unbounded; as soon as a double takes part, the
result is a double, and so is every exact quotient. Texts and lists can be joined and repeated, and
the remainder of a text fills its placeholders.

* `Operand.arithmetic?`, `Operand.signed?`: the operators on numbers, texts and lists;
* `Operand.compare?`: equality, order and membership.
-/

namespace ThemeForge.Template

/-- A number: an integer or a double. -/
inductive Numeric
  | int (n : Int)
  | float (d : Double)
deriving DecidableEq, Repr

namespace Numeric

/-- A number as a double. -/
def toDouble? : Numeric → Evaluation Double
  | .int n =>
    match (Double.ofInt n).view with
    | .infinite _ => misfit .hugeInteger
    | _ => .ok (.ofInt n)
  | .float d => .ok d

/-- The value of a number. -/
def toValue : Numeric → Value
  | .int n => .int n
  | .float d => .float d

/-- The number of a value; booleans count as integers. -/
def ofValue? : Value → Option Numeric
  | .bool b => some (.int (if b then 1 else 0))
  | .int n => some (.int n)
  | .float d => some (.float d)
  | _ => none

/-- The quotient of two integers as a double. -/
def quotient? (m n : Int) : Evaluation Double :=
  if n = 0 then misfit (.division .exact)
  else
    let q := Double.ofRatio (m < 0 ∧ 0 < n ∨ 0 < m ∧ n < 0) m.natAbs n.natAbs
    match q.view with
    | .infinite _ => misfit .hugeQuotient
    | _ => .ok q

/-- The floor of the quotient of two doubles, the second of which is not zero. -/
def floorQuotient (a b : Double) : Double :=
  let q := Double.ofFloat (a.toFloat / b.toFloat)
  match a.view, b.view with
  | .finite n m e, .finite n' m' e' =>
    let low := min e e'
    let x : Int := m * Nat.pow 2 (e - low).toNat
    let y : Int := m' * Nat.pow 2 (e' - low).toNat
    let floor := Int.fdiv (if n then -x else x) (if n' then -y else y)
    if floor = 0 then .signed (n != n') 0 else .ofInt floor
  | .finite n m _, .infinite n' => if m = 0 ∨ n = n' then .signed (n != n') 0 else .ofInt (-1)
  | .infinite _, _ => .nan
  | _, _ => q

/-- Whether a double is a number. -/
def isFinite (d : Double) : Bool :=
  match d.view with
  | .finite _ _ _ => true
  | _ => false

/-- The power of two doubles; numbers whose power is too large have none. -/
def doublePower? (a b : Double) : Evaluation Double :=
  if a.isZero && (Double.compare? b (.ofInt 0) == some .lt) then misfit (.division .power)
  else
    let p := Double.ofFloat (Float.pow a.toFloat b.toFloat)
    match p.view with
    | .infinite _ => if isFinite a && isFinite b then misfit .hugePower else .ok p
    | _ => .ok p

/-- An operator on two doubles. -/
def ofDoubles? (op : Arithmetic) (a b : Double) : Evaluation Numeric :=
  let machine (f : Float → Float → Float) : Numeric := .float (.ofFloat (f a.toFloat b.toFloat))
  match op with
  | .add => .ok (machine (· + ·))
  | .sub => .ok (machine (· - ·))
  | .mul => .ok (machine (· * ·))
  | .div => if b.isZero then misfit (.division .floatExact) else .ok (machine (· / ·))
  | .floorDiv =>
    if b.isZero then misfit (.division .floatFloor) else .ok (.float (floorQuotient a b))
  | .mod => if b.isZero then misfit (.division .floatRemainder) else .ok (.float (a.floorMod b))
  | .pow => (doublePower? a b).map .float

/-- An operator on two integers. -/
def ofIntegers? (op : Arithmetic) (m n : Int) : Evaluation Numeric :=
  match op with
  | .add => .ok (.int (m + n))
  | .sub => .ok (.int (m - n))
  | .mul => .ok (.int (m * n))
  | .div => (quotient? m n).map .float
  | .floorDiv => if n = 0 then misfit (.division .floor) else .ok (.int (m.fdiv n))
  | .mod => if n = 0 then misfit (.division .remainder) else .ok (.int (m.fmod n))
  | .pow =>
    if 0 ≤ n then .ok (.int (Int.pow m n.toNat))
    else do
      let a ← (Numeric.int m).toDouble?
      let b ← (Numeric.int n).toDouble?
      return .float (← doublePower? a b)

/-- An operator on two numbers. -/
def arithmetic? (op : Arithmetic) : Numeric → Numeric → Evaluation Numeric
  | .int m, .int n => ofIntegers? op m n
  | x, y => do ofDoubles? op (← x.toDouble?) (← y.toDouble?)

end Numeric

namespace Operand

/-- The sign of an operator, as messages show it. -/
def operatorText : Arithmetic → Text
  | .add => "+"
  | .sub => "-"
  | .mul => "*"
  | .div => "/"
  | .floorDiv => "//"
  | .mod => "%"
  | .pow => "** or pow()"

/-- The sum of two values that are not both numbers. -/
def joined? (v w : Value) : Evaluation Value :=
  match v, w with
  | .text s, .text t => .ok (.text (s ++ t))
  | .list s, .list t => .ok (.list (s ++ t))
  | .tuple s, .tuple t => .ok (.tuple (s ++ t))
  | .text _, _ | .list _, _ | .tuple _, _ => misfit (.join v.kind w.kind)
  | _, _ => misfit (.operands "+" v.kind w.kind)

/-- The most items that a repetition may have. -/
def maxRepetition : Nat := Nat.pow 2 32

/-- `n` copies of a list; a negative number counts as zero. -/
def copies? {α : Type} (items : List α) (n : Int) : Evaluation (List α) :=
  if n ≥ Nat.pow 2 63 then misfit .tooManyRepetitions
  else if items.length * n.toNat > maxRepetition then misfit .noMemory
  else .ok (List.replicate n.toNat items).flatten

/-- A sequence several times, unless the value is no sequence. -/
def repeated? (v w : Value) : Option (Evaluation Value) :=
  let times (build : Int → Evaluation Value) : Evaluation Value :=
    match w.asInt? with
    | some n => build n
    | none => misfit (.repetition w.kind)
  match v with
  | .text t => some (times fun n => (copies? t n).map .text)
  | .list items => some (times fun n => (copies? items n).map .list)
  | .tuple items => some (times fun n => (copies? items n).map .tuple)
  | _ => none

/-- An operator on two values. -/
def valueArithmetic? (op : Arithmetic) (v w : Value) : Evaluation Value :=
  match Numeric.ofValue? v, Numeric.ofValue? w with
  | some x, some y => (Numeric.arithmetic? op x y).map Numeric.toValue
  | _, _ =>
    let unsupported : Evaluation Value := misfit (.operands (operatorText op) v.kind w.kind)
    match op with
    | .add => joined? v w
    | .mul =>
      match (repeated? v w).or (repeated? w v) with
      | some r => r
      | none => unsupported
    | .mod =>
      match v with
      | .text t =>
        match Placeholder.fill? t w with
        | .ok filled => .ok (.text filled)
        | .error f => misfit (.placeholder f)
      | _ => unsupported
    | _ => unsupported

/-- An operator on two operands. -/
def arithmetic? (op : Arithmetic) (x y : Operand) : Evaluation Operand :=
  match x, y with
  | .undefined u, _ => u.refuse
  | _, .undefined u => u.refuse
  | .value v, .value w => (valueArithmetic? op v w).map .value
  | x, y => misfit (.operands (operatorText op) x.kind y.kind)

/-- An operand with a sign. -/
def signed? (negative : Bool) (x : Operand) : Evaluation Operand :=
  let unsupported : Evaluation Operand := misfit (.operand (if negative then "-" else "+") x.kind)
  match x with
  | .undefined u => u.refuse
  | .loop _ => unsupported
  | .value v =>
    match Numeric.ofValue? v with
    | some (.int n) => .ok (.value (.int (if negative then -n else n)))
    | some (.float d) =>
      .ok (.value (.float (if negative then .ofFloat (-d.toFloat) else d)))
    | none => unsupported

/-! ## Comparison -/

/-- The sign of a comparison, as messages show it. -/
def comparisonText : Comparison → Text
  | .less => "<"
  | .lessEqual => "<="
  | .greater => ">"
  | .greaterEqual => ">="
  | .equal => "=="
  | .notEqual => "!="
  | .member => "in"
  | .notMember => "not in"

/-- Whether an order satisfies a comparison. -/
def holds (c : Comparison) (o : Ordering) : Bool :=
  match c with
  | .less => o == .lt
  | .lessEqual => o != .gt
  | .greater => o == .gt
  | .greaterEqual => o != .lt
  | _ => o == .eq

/-- The order of two numbers, if there is one. -/
def numericOrder? : Numeric → Numeric → Option Ordering
  | .int m, .int n => some (compare m n)
  | .int m, .float e => Double.compareInt? m e
  | .float d, .int n => (Double.compareInt? n d).map Ordering.swap
  | .float d, .float e => Double.compare? d e

/-- Compares the first items that differ, by a comparison of values. -/
def orderedItems? (order : Value → Value → Evaluation Bool) (c : Comparison) :
    List Value → List Value → Evaluation Bool
  | [], [] => .ok (holds c .eq)
  | [], _ :: _ => .ok (holds c .lt)
  | _ :: _, [] => .ok (holds c .gt)
  | v :: s, w :: t => if Value.same v w then orderedItems? order c s t else order v w

/-- Compares the order of two values; the fuel bounds the depth of sequences. -/
def ordered? (c : Comparison) : Nat → Value → Value → Evaluation Bool
  | 0, v, w => misfit (.order (comparisonText c) v.kind w.kind)
  | fuel + 1, v, w =>
    match Numeric.ofValue? v, Numeric.ofValue? w with
    | some x, some y => .ok ((numericOrder? x y).any (holds c))
    | _, _ =>
      match v, w with
      | .text s, .text t => .ok (holds c (Text.compare s t))
      | .list s, .list t => orderedItems? (ordered? c fuel) c s t
      | .tuple s, .tuple t => orderedItems? (ordered? c fuel) c s t
      | _, _ => misfit (.order (comparisonText c) v.kind w.kind)

/-- The greatest depth of sequences that is compared. -/
def maxDepth : Nat := 1000

/-- Whether a value is a member of another. -/
def member? (x : Operand) (w : Value) : Evaluation Bool :=
  match w, x with
  | .text t, .value (.text s) => .ok (s.occursIn t)
  | .text _, x => misfit (.textMember x.kind)
  | .mapping m, .value v =>
    if v.isKey then .ok (Value.Mapping.get? m v).isSome else misfit (.unhashable v.kind)
  | .mapping _, x => do
    let _ ← x.value?
    return false
  | w, x =>
    match w.items? with
    | none => misfit (.container w.kind)
    | some [] => .ok false
    | some items => do
      let v ← x.value?
      return items.any (Value.same v)

/-- Whether two operands are the same. -/
def same? (x y : Operand) : Evaluation Bool :=
  match x, y with
  | .undefined u, y => if u.strict then u.refuse else
      match y with
      | .undefined u' => if u'.strict then u'.refuse else .ok true
      | _ => .ok false
  | _, .undefined u => if u.strict then u.refuse else .ok false
  | .value v, .value w => .ok (Value.same v w)
  | .loop _, .loop _ => .ok true
  | _, _ => .ok false

/-- A comparison of two operands. -/
def compare? (c : Comparison) (x y : Operand) : Evaluation Bool :=
  match c with
  | .equal => same? x y
  | .notEqual => do return !(← same? x y)
  | .member | .notMember => do
    let found ← match y with
      | .undefined u => if u.strict then u.refuse else .ok false
      | .value w => member? x w
      | .loop l => member? x (.list (l.before.reverse ++ l.current :: l.after))
    return if c = .member then found else !found
  | _ =>
    match x, y with
    | .undefined u, _ => u.refuse
    | _, .undefined u => u.refuse
    | .value v, .value w => ordered? c maxDepth v w
    | x, y => misfit (.order (comparisonText c) x.kind y.kind)

end Operand

end ThemeForge.Template
