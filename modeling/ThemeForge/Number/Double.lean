/-!
# Binary floating-point numbers

Double-precision numbers by their bits, with exact views in integer arithmetic: what a number is
(`Double.view`), the number nearest to a ratio (`Double.ofRatio`), the integer a number equals
(`Double.toInt?`). Sums and products are those of the machine.
-/

namespace ThemeForge

/-- A double-precision number, given by its 64 bits. -/
structure Double where
  bits : UInt64
deriving DecidableEq, Repr

namespace Double

/-- What a double is: not a number, an infinity, or `± mantissa · 2 ^ exponent`. -/
inductive View
  | nan
  | infinite (negative : Bool)
  | finite (negative : Bool) (mantissa : Nat) (exponent : Int)
deriving DecidableEq, Repr

/-- Reads the sign, exponent and fraction of a double. -/
def view (d : Double) : View :=
  let n := d.bits.toNat
  let negative := n / Nat.pow 2 63 == 1
  let field : Nat := n / Nat.pow 2 52 % 2048
  let fraction : Nat := n % Nat.pow 2 52
  if field = 2047 then (if fraction = 0 then .infinite negative else .nan)
  else if field = 0 then .finite negative fraction (-1074)
  else .finite negative (Nat.pow 2 52 + fraction) ((field : Int) - 1075)

/-- Sets the sign of a magnitude given by its bits. -/
def signed (negative : Bool) (bits : Nat) : Double :=
  ⟨((if negative then Nat.pow 2 63 else 0) + bits).toUInt64⟩

/-- An infinity. -/
def infinity (negative : Bool) : Double := signed negative (2047 * Nat.pow 2 52)

/-- Not a number. -/
def nan : Double := signed false (2047 * Nat.pow 2 52 + Nat.pow 2 51)

/-- `num / (den · 2 ^ e)` as a quotient and what decides its rounding: the remainder and the
divisor. -/
def scaled (num den : Nat) (e : Int) : Nat × Nat × Nat :=
  let n := num * Nat.pow 2 (-e).toNat
  let d := den * Nat.pow 2 e.toNat
  (n / d, n % d, d)

/-- The quotient rounded to nearest, a tie going to the even neighbour. -/
def roundEven (q r d : Nat) : Nat :=
  if 2 * r > d ∨ (2 * r = d ∧ q % 2 = 1) then q + 1 else q

/-- The double nearest to `± num / den`; `den` is not zero. -/
def ofRatio (negative : Bool) (num den : Nat) : Double :=
  if num = 0 then signed negative 0
  else
    let e0 : Int := max ((num.log2 : Int) - den.log2 - 53) (-1074)
    let e := if (scaled num den e0).1 ≥ Nat.pow 2 53 then e0 + 1 else e0
    let (q, r, d) := scaled num den e
    let bits := (e + 1074).toNat * Nat.pow 2 52 + roundEven q r d
    if bits ≥ 2047 * Nat.pow 2 52 then infinity negative else signed negative bits

/-- The double nearest to an integer. -/
def ofInt (n : Int) : Double := ofRatio (n < 0) n.natAbs 1

/-- The double nearest to `± digits · 10 ^ exponent`. Exponents far out of range are settled
without computing the power. -/
def ofDecimal (negative : Bool) (digits : Nat) (exponent : Int) : Double :=
  if digits = 0 then signed negative 0
  else
    let magnitude := exponent + (digits.log2 : Int) * 30103 / 100000
    if magnitude > 400 then infinity negative
    else if magnitude < -400 then signed negative 0
    else ofRatio negative (digits * Nat.pow 10 exponent.toNat) (Nat.pow 10 (-exponent).toNat)

/-- The machine's number. -/
def toFloat (d : Double) : Float := Float.ofBits d.bits

/-- A number of the machine by its bits. -/
def ofFloat (f : Float) : Double := ⟨f.toBits⟩

/-- The integer a double equals, if any. -/
def toInt? (d : Double) : Option Int :=
  match d.view with
  | .finite negative m e =>
    if e ≥ 0 ∨ m % Nat.pow 2 (-e).toNat = 0 then
      let n : Nat := m * Nat.pow 2 e.toNat / Nat.pow 2 (-e).toNat
      some (if negative then -n else n)
    else none
  | _ => none

/-- The integer part of a finite double. -/
def truncate? (d : Double) : Option Int :=
  match d.view with
  | .finite negative m e =>
    let n : Nat := m * Nat.pow 2 e.toNat / Nat.pow 2 (-e).toNat
    some (if negative then -n else n)
  | _ => none

/-- Whether a double is one of the zeros. -/
def isZero (d : Double) : Bool :=
  match d.view with
  | .finite _ m _ => m == 0
  | _ => false

/-- The order of two doubles, if neither is a NaN. -/
def compare? (a b : Double) : Option Ordering :=
  match a.view, b.view with
  | .nan, _ => none
  | _, .nan => none
  | .infinite n, .infinite n' => some (Ord.compare (!n) (!n'))
  | .infinite n, _ => some (if n then .lt else .gt)
  | _, .infinite n => some (if n then .gt else .lt)
  | .finite n m e, .finite n' m' e' =>
    let x : Int := m * Nat.pow 2 (e - e').toNat
    let y : Int := m' * Nat.pow 2 (e' - e).toNat
    some (Ord.compare (if n then -x else x) (if n' then -y else y))

/-- The order of an integer and a double, if the latter is no NaN. -/
def compareInt? (n : Int) (d : Double) : Option Ordering :=
  match d.view with
  | .nan => none
  | .infinite negative => some (if negative then .gt else .lt)
  | .finite negative m e =>
    let x : Int := n * Nat.pow 2 (-e).toNat
    let y : Int := m * Nat.pow 2 e.toNat
    some (Ord.compare x (if negative then -y else y))

/-- The remainder of the floored division of two finite doubles, exactly, with the sign of the
divisor; `b` is not zero. -/
def floorMod (a b : Double) : Double :=
  match a.view, b.view with
  | .finite n m e, .finite n' m' e' =>
    let low := min e e'
    let x : Int := m * Nat.pow 2 (e - low).toNat
    let y : Int := m' * Nat.pow 2 (e' - low).toNat
    let r := Int.fmod (if n then -x else x) (if n' then -y else y)
    if r = 0 then signed n' 0
    else ofRatio (r < 0) (r.natAbs * Nat.pow 2 low.toNat) (Nat.pow 2 (-low).toNat)
  | .finite n m _, .infinite n' => if m = 0 then signed n' 0 else if n = n' then a else b
  | _, _ => nan

end Double

end ThemeForge
