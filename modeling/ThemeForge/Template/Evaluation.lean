import ThemeForge.Template.Filter

/-!
# Evaluation of expressions

* `Scope`: the names in reach, inner ones first;
* `Expr.eval?`: the operand of an expression in a scope. Operands are evaluated from left to right,
  and what does not matter for the result is not evaluated at all.
-/

namespace ThemeForge.Template

/-- The names in reach and what they stand for. -/
abbrev Scope := List (Text × Operand)

namespace Scope

/-- What a name stands for. -/
def get (s : Scope) (n : Text) : Operand :=
  match s.lookup n with
  | some x => x
  | none => .undefined (.name n)

end Scope

/-- A boolean as an operand. -/
def Operand.ofBool (b : Bool) : Operand := .value (.bool b)

/-- Calling an operand, which no value allows. -/
def Operand.call? : Operand → Evaluation Operand
  | .undefined u => u.refuse
  | .value v => misfit (.call v.kind)
  | .loop _ => misfit .loopCall

/-- What is reported about a choice without alternative. -/
def noAlternative (template : Option Text) (line : Nat) : Undefined :=
  let place : Text := match template with
    | some n => Text.concat [Text.ofNat line, " in ", n.quote]
    | none => Text.ofNat line
  ⟨Text.concat ["the inline if-expression on line ", place,
    " evaluated to false and no else section was defined."], false⟩

namespace Expr

mutual

/-- The operand of an expression. `template` is the name of the template, `captured` the text that
a capturing statement filters. -/
def eval? (template : Option Text) (captured : Text) (s : Scope) : Expr → Evaluation Operand
  | .literal v => .ok (.value v)
  | .captured => .ok (.value (.text captured))
  | .name _ n => .ok (s.get n)
  | .list items => do return .value (.list (← values? template captured s items))
  | .tuple _ items => do return .value (.tuple (← values? template captured s items))
  | .mapping entries => do return .value (.mapping (← entries? template captured s [] entries))
  | .attribute e n => do (← eval? template captured s e).attribute? n
  | .item e key => do
    let x ← eval? template captured s e
    x.item? (← eval? template captured s key)
  | .signed negative e => do (← eval? template captured s e).signed? negative
  | .arithmetic op l r => do
    let x ← eval? template captured s l
    Operand.arithmetic? op x (← eval? template captured s r)
  | .concat parts => do
    let xs ← evals? template captured s parts
    return .value (.text (Text.concat (← xs.mapM Operand.plain?)))
  | .compare first rest => do
    let x ← eval? template captured s first
    return .ofBool (← compares? template captured s x rest)
  | .both l r => do
    let x ← eval? template captured s l
    if ← x.isTruthy? then eval? template captured s r else return x
  | .either l r => do
    let x ← eval? template captured s l
    if ← x.isTruthy? then return x else eval? template captured s r
  | .negate e => do
    let x ← eval? template captured s e
    return .ofBool !(← x.isTruthy?)
  | .choice line condition whenTrue otherwise => do
    let x ← eval? template captured s condition
    if ← x.isTruthy? then eval? template captured s whenTrue
    else
      match otherwise with
      | some e => eval? template captured s e
      | none => return .undefined (noAlternative template line)
  | .filter _ e n positional named => do
    let x ← eval? template captured s e
    let xs ← evals? template captured s positional
    Filter.result? n ⟨x :: xs, ← named? template captured s named⟩
  | .test _ e n positional named => do
    let x ← eval? template captured s e
    let xs ← evals? template captured s positional
    return .ofBool (← Predicate.result? n ⟨x :: xs, ← named? template captured s named⟩)
  | .call e positional named => do
    let x ← eval? template captured s e
    let _ ← evals? template captured s positional
    let _ ← named? template captured s named
    x.call?

/-- The operands of several expressions. -/
def evals? (template : Option Text) (captured : Text) (s : Scope) :
    List Expr → Evaluation (List Operand)
  | [] => .ok []
  | e :: rest => do
    let x ← eval? template captured s e
    return x :: (← evals? template captured s rest)

/-- The values of several expressions. -/
def values? (template : Option Text) (captured : Text) (s : Scope) :
    List Expr → Evaluation (List Value)
  | [] => .ok []
  | e :: rest => do
    let v ← (← eval? template captured s e).value?
    return v :: (← values? template captured s rest)

/-- The entries of a mapping, later keys replacing equal ones. -/
def entries? (template : Option Text) (captured : Text) (s : Scope) (m : Value.Mapping) :
    List (Expr × Expr) → Evaluation Value.Mapping
  | [] => .ok m
  | (k, e) :: rest => do
    let key ← (← eval? template captured s k).value?
    let v ← (← eval? template captured s e).value?
    if key.isKey then entries? template captured s (Value.Mapping.put key v m) rest
    else misfit (.unhashable key.kind)

/-- Whether each operand of a chain compares with the one before it. -/
def compares? (template : Option Text) (captured : Text) (s : Scope) (x : Operand) :
    List (Comparison × Expr) → Evaluation Bool
  | [] => .ok true
  | (c, e) :: rest => do
    let y ← eval? template captured s e
    if ← Operand.compare? c x y then compares? template captured s y rest else return false

/-- The operands of named arguments. -/
def named? (template : Option Text) (captured : Text) (s : Scope) :
    List (Text × Expr) → Evaluation (List (Text × Operand))
  | [] => .ok []
  | (n, e) :: rest => do
    let x ← eval? template captured s e
    return (n, x) :: (← named? template captured s rest)

end

end Expr

end ThemeForge.Template
