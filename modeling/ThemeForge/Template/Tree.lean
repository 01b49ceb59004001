import ThemeForge.Template.Fault
import ThemeForge.Value.Basic

/-!
# Syntax trees of templates

* `Expr`: expressions; `Target`: what can be assigned to; `Stmt`: statements;
* `Expr.target?`: an expression as a target;
* `Stmt.firstFault`: filters, tests and loop variables that are refused before anything runs.
-/

namespace ThemeForge.Template

/-- The operators on numbers, of which some also work on texts and lists. -/
inductive Arithmetic
  | add | sub | mul | div | floorDiv | mod | pow
deriving DecidableEq, Repr

/-- The comparisons. -/
inductive Comparison
  | equal | notEqual | less | lessEqual | greater | greaterEqual | member | notMember
deriving DecidableEq, Repr

/-- An expression. Some carry the line that faults are reported for. -/
inductive Expr
  | literal (v : Value)
  | captured
  | name (line : Nat) (n : Text)
  | list (items : List Expr)
  | tuple (line : Nat) (items : List Expr)
  | mapping (entries : List (Expr × Expr))
  | attribute (e : Expr) (name : Text)
  | item (e key : Expr)
  | signed (negative : Bool) (e : Expr)
  | arithmetic (op : Arithmetic) (left right : Expr)
  | concat (parts : List Expr)
  | compare (first : Expr) (rest : List (Comparison × Expr))
  | both (left right : Expr)
  | either (left right : Expr)
  | negate (e : Expr)
  | choice (line : Nat) (condition whenTrue : Expr) (otherwise : Option Expr)
  | filter (line : Nat) (e : Expr) (name : Text) (positional : List Expr)
      (named : List (Text × Expr))
  | test (line : Nat) (e : Expr) (name : Text) (positional : List Expr)
      (named : List (Text × Expr))
  | call (e : Expr) (positional : List Expr) (named : List (Text × Expr))
deriving Repr

/-- What can be assigned to: a name, several targets, or a field of a namespace. -/
inductive Target
  | name (line : Nat) (n : Text)
  | tuple (targets : List Target)
  | field (owner name : Text)
deriving Repr

/-- A statement. -/
inductive Stmt
  | text (t : Text)
  | print (e : Expr)
  | cond (branches : List (Expr × List Stmt)) (otherwise : List Stmt)
  | loop (target : Target) (items : Expr) (condition : Option Expr) (body otherwise : List Stmt)
  | assign (target : Target) (e : Expr)
  | capture (target : Target) (filtered : Expr) (body : List Stmt)
  | insert (e : Expr) (ignoreMissing withContext : Bool)
deriving Repr

/-! ## Targets -/

namespace Expr

/-- What an expression is called when it cannot be assigned to. -/
def describe : Expr → Text
  | .literal _ => "const"
  | .captured => "const"
  | .name _ _ => "name"
  | .list _ => "list"
  | .tuple _ _ => "tuple"
  | .mapping _ => "dict"
  | .attribute _ _ => "getattr"
  | .item _ _ => "getitem"
  | .signed negative _ => if negative then "neg" else "pos"
  | .arithmetic op _ _ =>
    match op with
    | .add => "add" | .sub => "sub" | .mul => "mul" | .div => "div"
    | .floorDiv => "floordiv" | .mod => "mod" | .pow => "pow"
  | .concat _ => "concat"
  | .compare _ _ => "compare"
  | .both _ _ => "and"
  | .either _ _ => "or"
  | .negate _ => "not"
  | .choice _ _ _ _ => "condexpr"
  | .filter _ _ _ _ _ => "filter"
  | .test _ _ _ _ _ => "test"
  | .call _ _ _ => "call"

mutual

/-- An expression as a target. -/
def target? : Expr → Option Target
  | .name line n => some (.name line n)
  | .tuple _ items => (targets? items).map .tuple
  | _ => none

/-- Expressions as targets. -/
def targets? : List Expr → Option (List Target)
  | [] => some []
  | e :: rest => do return (← target? e) :: (← targets? rest)

end


/-! ## Early faults -/


mutual

/-- The first unknown filter or test of an expression, the outer ones first. What stands in a choice
is only looked up when it is reached. -/
def firstFault (filters tests : List Text) : Expr → Option SourceFault
  | .literal _ | .captured | .name _ _ => none
  | .list items => firstFaults filters tests items
  | .tuple _ items => firstFaults filters tests items
  | .mapping entries => firstFaultOfEntries filters tests entries
  | .attribute e _ => firstFault filters tests e
  | .item e key => (firstFault filters tests e).or (firstFault filters tests key)
  | .signed _ e => firstFault filters tests e
  | .arithmetic _ l r => (firstFault filters tests l).or (firstFault filters tests r)
  | .concat parts => firstFaults filters tests parts
  | .compare e rest => (firstFault filters tests e).or (firstFaultOfRest filters tests rest)
  | .both l r => (firstFault filters tests l).or (firstFault filters tests r)
  | .either l r => (firstFault filters tests l).or (firstFault filters tests r)
  | .negate e => firstFault filters tests e
  | .choice _ _ _ _ => none
  | .filter line e n positional named =>
    if filters.contains n then
      (firstFault filters tests e).or
        ((firstFaults filters tests positional).or (firstFaultOfNamed filters tests named))
    else some ⟨line, .noFilter n⟩
  | .test line e n positional named =>
    if tests.contains n then
      (firstFault filters tests e).or
        ((firstFaults filters tests positional).or (firstFaultOfNamed filters tests named))
    else some ⟨line, .noTest n⟩
  | .call e positional named =>
    (firstFault filters tests e).or
      ((firstFaults filters tests positional).or (firstFaultOfNamed filters tests named))

/-- The first fault of several expressions. -/
def firstFaults (filters tests : List Text) : List Expr → Option SourceFault
  | [] => none
  | e :: rest => (firstFault filters tests e).or (firstFaults filters tests rest)

/-- The first fault of the entries of a mapping. -/
def firstFaultOfEntries (filters tests : List Text) : List (Expr × Expr) → Option SourceFault
  | [] => none
  | (k, v) :: rest => (firstFault filters tests k).or
      ((firstFault filters tests v).or (firstFaultOfEntries filters tests rest))

/-- The first fault of the later parts of a comparison. -/
def firstFaultOfRest (filters tests : List Text) : List (Comparison × Expr) → Option SourceFault
  | [] => none
  | (_, e) :: rest => (firstFault filters tests e).or (firstFaultOfRest filters tests rest)

/-- The first fault of named arguments. -/
def firstFaultOfNamed (filters tests : List Text) : List (Text × Expr) → Option SourceFault
  | [] => none
  | (_, e) :: rest => (firstFault filters tests e).or (firstFaultOfNamed filters tests rest)

end

end Expr

mutual

/-- The assignment to a name that is found first in a target. -/
def Target.line? (n : Text) : Target → Option Nat
  | .name line m => if m = n then some line else none
  | .tuple targets => Target.lines? n targets
  | .field _ _ => none

/-- The assignment to a name that is found first in several targets. -/
def Target.lines? (n : Text) : List Target → Option Nat
  | [] => none
  | t :: rest => (Target.line? n t).or (Target.lines? n rest)

end

namespace Stmt

mutual

/-- The line of the first assignment to a name, however deep in a statement. -/
def assignment? (n : Text) : Stmt → Option Nat
  | .text _ | .print _ | .insert _ _ _ => none
  | .cond branches otherwise => (assignmentOfBranches? n branches).or (assignments? n otherwise)
  | .loop target _ _ body otherwise =>
    (target.line? n).or ((assignments? n body).or (assignments? n otherwise))
  | .assign target _ => target.line? n
  | .capture target _ body => (target.line? n).or (assignments? n body)

/-- The line of the first assignment to a name in statements. -/
def assignments? (n : Text) : List Stmt → Option Nat
  | [] => none
  | s :: rest => (assignment? n s).or (assignments? n rest)

/-- The line of the first assignment to a name in branches. -/
def assignmentOfBranches? (n : Text) : List (Expr × List Stmt) → Option Nat
  | [] => none
  | (_, body) :: rest => (assignments? n body).or (assignmentOfBranches? n rest)

end

/-- The name of the variable that counts the rounds of a loop. -/
def loopName : Text := "loop"

/-- An assignment to the loop variable inside a loop. -/
def loopFault? (s : Stmt) : Option SourceFault :=
  (assignment? loopName s).map fun line => ⟨line, .loopTarget⟩

mutual

/-- The first fault of a statement that is found before anything runs. In the branches of a
condition (`soft`), filters and tests are only looked up when they are reached; loops and captures
inside are checked all the same. -/
def firstFault (filters tests : List Text) (soft : Bool) : Stmt → Option SourceFault
  | .text _ => none
  | .print e => if soft then none else e.firstFault filters tests
  | .cond branches otherwise =>
    (firstFaultOfBranches filters tests branches).or (firstFaults filters tests true otherwise)
  | .loop target items condition body otherwise =>
    (condition.bind (Expr.firstFault filters tests)).or
      ((loopFault? (.loop target items condition body otherwise)).or
        ((if soft then none else items.firstFault filters tests).or
          ((firstFaults filters tests false body).or (firstFaults filters tests false otherwise))))
  | .assign _ e => if soft then none else e.firstFault filters tests
  | .capture _ filtered body =>
    (firstFaults filters tests false body).or (filtered.firstFault filters tests)
  | .insert e _ _ => if soft then none else e.firstFault filters tests

/-- The first fault of statements. -/
def firstFaults (filters tests : List Text) (soft : Bool) : List Stmt → Option SourceFault
  | [] => none
  | s :: rest => (firstFault filters tests soft s).or (firstFaults filters tests soft rest)

/-- The first fault of the branches of a condition. -/
def firstFaultOfBranches (filters tests : List Text) :
    List (Expr × List Stmt) → Option SourceFault
  | [] => none
  | (_, body) :: rest => (firstFaults filters tests true body).or
      (firstFaultOfBranches filters tests rest)

end

end Stmt

end ThemeForge.Template
