import ThemeForge.Json.StringBody
import ThemeForge.Template.Operation
import ThemeForge.Text.Blank

/-!
# Filters and tests

Filters change an operand, tests ask about it. Both take arguments, by position or by name; the
operand itself is the first argument. Those of the engine that are in neither table are left out.

* `Signature.bind?`: arguments matched with the parameters of a filter or test;
* `Filter.names`, `Filter.result?`: the filters;
* `Predicate.names`, `Predicate.result?`: the tests.
-/

namespace ThemeForge.Template

/-- The name and the parameters of a filter or test; `hidden` arguments come before those that are
written. -/
structure Signature where
  name : Text
  hidden : Nat
  required : List Text
  optional : List Text
deriving DecidableEq, Repr

/-- Operands given by position and by name. -/
structure Supplied where
  positional : List Operand
  named : List (Text × Operand)
deriving Repr

namespace Signature

/-- All parameters in order. -/
def parameters (s : Signature) : List Text := s.required ++ s.optional

/-- The first named argument that fits no parameter or one that is given by position. -/
def namedFault? (s : Signature) (given : Nat) : List (Text × Operand) → Option OperationFault
  | [] => none
  | (n, _) :: rest =>
    if (s.parameters.take given).contains n then some (.repeatedArgument s.name n)
    else if s.parameters.contains n then s.namedFault? given rest
    else some (.unknownArgument s.name n)

/-- The argument for each parameter, none for those left out. -/
def bind? (s : Signature) (a : Supplied) : Evaluation (List (Option Operand)) :=
  match s.namedFault? a.positional.length a.named with
  | some f => misfit f
  | none =>
    if a.positional.length > s.parameters.length then
      misfit (.tooManyArguments s.name (s.hidden + s.required.length)
        (s.hidden + s.parameters.length) (s.hidden + a.positional.length))
    else
      let missing := (s.required.drop a.positional.length).filter fun p =>
        (a.named.lookup p).isNone
      if missing = [] then
        let others := s.parameters.drop a.positional.length
        .ok (a.positional.map some ++ others.map fun p => a.named.lookup p)
      else misfit (.missingArguments s.name missing)

end Signature

/-! ## Filters -/

/-- A filter. -/
inductive Filter
  | jsonString
  | upper
  | lower
  | trim
  | length
  | replace
  | fallback
deriving DecidableEq, Repr

namespace Filter

/-- The filters by name. -/
def table : List (Text × Filter) :=
  [("json_string", .jsonString), ("upper", .upper), ("lower", .lower), ("trim", .trim),
    ("length", .length), ("count", .length), ("replace", .replace), ("default", .fallback),
    ("d", .fallback)]

/-- The names of all filters. -/
def names : List Text := table.map Prod.fst

/-- The parameters of a filter. -/
def signature : Filter → Signature
  | .jsonString => ⟨"json_string", 0, ["value"], []⟩
  | .upper => ⟨"do_upper", 0, ["s"], []⟩
  | .lower => ⟨"do_lower", 0, ["s"], []⟩
  | .trim => ⟨"do_trim", 0, ["value"], ["chars"]⟩
  | .length => ⟨"len", 0, ["obj"], []⟩
  | .replace => ⟨"do_replace", 1, ["s", "old", "new"], ["count"]⟩
  | .fallback => ⟨"do_default", 0, ["value"], ["default_value", "boolean"]⟩

/-- A text as an operand. -/
def ofText (t : Text) : Operand := .value (.text t)

/-- The number of items of an operand. -/
def lengthOf? : Operand → Evaluation Nat
  | .value v =>
    match v.items? with
    | some items => .ok items.length
    | none => misfit (.length v.kind)
  | .undefined u => if u.strict then u.refuse else .ok 0
  | .loop l => .ok l.length

/-- The code points that trimming removes: blanks, or those of a text. -/
def trimmed? : Operand → Evaluation (Code → Bool)
  | .value .null => .ok Code.isBlank
  | .value (.text chars) => .ok chars.contains
  | _ => misfit .trimmedBy

/-- How many occurrences are replaced: all of them, or at most a number. -/
def limit? : Operand → Evaluation (Option Nat)
  | .value .null => .ok none
  | .value v =>
    match v.asInt? with
    | some n => .ok (if n < 0 then none else some n.toNat)
    | none => misfit (.notInteger v.kind)
  | x => misfit (.notInteger x.kind)

/-- Null, for an argument that is left out. -/
def orNull (x : Option Operand) : Operand := x.getD (.value .null)

/-- Whether the default takes the place of an operand. -/
def needsDefault? (x : Operand) (falsy : Operand) : Evaluation Bool := do
  if !x.isDefined then return true
  if ← falsy.isTruthy? then return !(← x.isTruthy?) else return false

/-- A filter applied to bound arguments. -/
def run? : Filter → List (Option Operand) → Evaluation Operand
  | .jsonString, [some x] => do return ofText (Json.escape (← x.plain?))
  | .upper, [some x] => do return ofText (← x.plain?).upper
  | .lower, [some x] => do return ofText (← x.plain?).lower
  | .trim, [some x, chars] => do
    let t ← x.plain?
    return ofText (Text.trimOf (← trimmed? (orNull chars)) t)
  | .length, [some x] => do return .value (.int (← lengthOf? x))
  | .replace, [some x, some old, some new, count] => do
    let t ← x.plain?
    let p ← old.plain?
    let r ← new.plain?
    return ofText (Text.replaceAll p r (← limit? (orNull count)) t)
  | .fallback, [some x, value, falsy] => do
    if ← needsDefault? x (falsy.getD (.value (.bool false))) then
      return value.getD (ofText [])
    else return x
  | _, _ => .ok (.value .null)

/-- A filter applied to its arguments, of which the first is the operand. -/
def result? (n : Text) (a : Supplied) : Evaluation Operand :=
  match table.lookup n with
  | none => .error (.template (.noFilter n))
  | some f => do run? f (← f.signature.bind? a)

end Filter

/-! ## Tests -/

/-- A test. -/
inductive Predicate
  | defined
  | undefined
  | none
  | boolean
  | string
  | number
  | mapping
  | iterable
  | even
  | odd
deriving DecidableEq, Repr

namespace Predicate

/-- The tests by name. -/
def table : List (Text × Predicate) :=
  [("defined", .defined), ("undefined", .undefined), ("none", .none), ("boolean", .boolean),
    ("string", .string), ("number", .number), ("mapping", .mapping), ("iterable", .iterable),
    ("even", .even), ("odd", .odd)]

/-- The names of all tests. -/
def names : List Text := table.map Prod.fst

/-- The parameters of a test called `n`. -/
def signature (n : Text) : Signature := ⟨("test_" : Text) ++ n, 0, ["value"], []⟩

/-- Whether an operand leaves a remainder of `r` when halved. -/
def parity? (r : Int) (x : Operand) : Evaluation Bool := do
  Operand.same? (← Operand.arithmetic? .mod x (.value (.int 2))) (.value (.int r))

/-- A test of an operand. -/
def run? (p : Predicate) (x : Operand) : Evaluation Bool :=
  match p, x with
  | .defined, x => .ok x.isDefined
  | .undefined, x => .ok !x.isDefined
  | .none, .value .null => .ok true
  | .boolean, .value (.bool _) => .ok true
  | .string, .value (.text _) => .ok true
  | .number, .value v => .ok (match v with
    | .bool _ | .int _ | .float _ => true
    | _ => false)
  | .mapping, .value (.mapping _) => .ok true
  | .iterable, .value v => .ok v.items?.isSome
  | .iterable, .undefined u => if u.strict then u.refuse else .ok true
  | .iterable, .loop _ => .ok true
  | .even, x => parity? 0 x
  | .odd, x => parity? 1 x
  | _, _ => .ok false

/-- A test applied to its arguments, of which the first is the operand. -/
def result? (n : Text) (a : Supplied) : Evaluation Bool :=
  match table.lookup n with
  | Option.none => .error (.template (.noTest n))
  | some p => do
    match ← (signature n).bind? a with
    | some x :: _ => run? p x
    | _ => return false

end Predicate

end ThemeForge.Template
