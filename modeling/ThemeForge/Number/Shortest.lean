import ThemeForge.Number.Double
import ThemeForge.Text.Blank

/-!
# Shortest decimal form

A double is written with the fewest digits that read back as it, and of those with the digits
nearest to it. Positional notation is used for magnitudes from 10⁻⁴ up to 10¹⁶, otherwise a power
of ten is written.

* `Double.shortest`: digits and the place of the decimal point;
* `Double.text`: the written form.
-/

namespace ThemeForge.Double

/-- The half-open rational interval arithmetic is done over one denominator: `value`, `low` and
`high` are numerators, and `closed` says whether the ends round to the value as well. -/
structure Rounding where
  value : Nat
  low : Nat
  high : Nat
  den : Nat
  closed : Bool

/-- The reals that round to `mantissa · 2 ^ exponent`. Below a power of two the neighbour is
nearer. -/
def rounding (mantissa : Nat) (exponent : Int) : Rounding :=
  let s := Nat.pow 2 exponent.toNat
  let narrow := mantissa = Nat.pow 2 52 ∧ exponent > -1074
  { value := 4 * mantissa * s
    low := (4 * mantissa - if narrow then 1 else 2) * s
    high := (4 * mantissa + 2) * s
    den := 4 * Nat.pow 2 (-exponent).toNat
    closed := mantissa % 2 = 0 }

/-- The number of decimal digits of `n`. -/
def digitCount (n : Nat) : Nat := (Text.ofNat n).length

/-- The power of ten at or below `num / den`, as an exponent. -/
def decade (num den : Nat) : Int :=
  if den ≤ num then digitCount (num / den) - 1
  else
    let k := digitCount (den / num) - 1
    if den ≤ num * Nat.pow 10 k then -(k : Int) else -(k + 1 : Int)

/-- Whether `n · 10 ^ unit` rounds to the value. -/
def Rounding.accepts (r : Rounding) (unit : Int) (n : Nat) : Bool :=
  let x := n * Nat.pow 10 unit.toNat * r.den
  let scale := Nat.pow 10 (-unit).toNat
  if r.closed then r.low * scale ≤ x && x ≤ r.high * scale
  else r.low * scale < x && x < r.high * scale

/-- The nearest multiple of `10 ^ unit` that rounds to the value, of its two neighbours on that
grid. -/
def Rounding.hit? (r : Rounding) (unit : Int) : Option Nat :=
  let num := r.value * Nat.pow 10 (-unit).toNat
  let den := r.den * Nat.pow 10 unit.toNat
  let below := num / den
  let rest := num % den
  match r.accepts unit below, r.accepts unit (below + 1) with
  | true, true =>
    some (if 2 * rest > den ∨ (2 * rest = den ∧ below % 2 = 1) then below + 1 else below)
  | true, false => some below
  | false, true => some (below + 1)
  | false, false => none

/-- Tries grids with more and more digits: `count` digits first, and `fuel` grids at most. -/
def Rounding.search (r : Rounding) (top : Int) : Nat → Nat → Nat × Int
  | 0, _ => (0, 0)
  | fuel + 1, count =>
    let unit := top + 1 - count
    match r.hit? unit with
    | some n => (n, unit)
    | none => r.search top fuel (count + 1)

/-- The shortest `digits · 10 ^ unit` that reads back as `mantissa · 2 ^ exponent`. -/
def shortest (mantissa : Nat) (exponent : Int) : Nat × Int :=
  let r := rounding mantissa exponent
  r.search (decade r.value r.den) 18 1

/-- The written form of `digits · 10 ^ unit`, not zero. -/
def layout (digits : Nat) (unit : Int) : Text :=
  let all := Text.ofNat digits
  let ds := Text.trimEndOf (· == '0') all
  let point : Int := all.length + unit
  if -4 < point ∧ point ≤ 16 then
    if point ≤ 0 then "0." ++ List.replicate (-point).toNat (Code.ofChar '0') ++ ds
    else if ds.length ≤ point.toNat then
      ds ++ List.replicate (point.toNat - ds.length) (Code.ofChar '0') ++ ".0"
    else ds.take point.toNat ++ "." ++ ds.drop point.toNat
  else
    let e := point - 1
    ds.take 1 ++ (if ds.length > 1 then "." ++ ds.drop 1 else "")
      ++ (if e < 0 then "e-" else "e+") ++ Text.padLeft 2 '0' (Text.ofNat e.natAbs)

/-- The written form of a double. -/
def text (d : Double) : Text :=
  match d.view with
  | .nan => "nan"
  | .infinite negative => if negative then "-inf" else "inf"
  | .finite negative m e =>
    let magnitude : Text := if m = 0 then "0.0" else let (n, unit) := shortest m e; layout n unit
    if negative then '-' :: magnitude else magnitude

end ThemeForge.Double
