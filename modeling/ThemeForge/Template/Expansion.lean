import ThemeForge.Template.Engine
import ThemeForge.Template.Evaluation
import ThemeForge.Template.Reader

/-!
# Expansion of templates

A template is expanded statement by statement; a statement gives text and may assign names. The
branches of a condition share the scope around them, each round of a loop has a scope of its own.

* `Template.statements?`, `Template.body`: the statements of a source that has been checked;
* `Template.run?`: the text of a template for given names. Other templates are inserted through a
  `Library`, and the names of those that were taken from it are returned with the text.
-/

namespace ThemeForge

namespace Template

/-- A computation that inserts templates: it may fail, and it notes the names of the templates
that were found, in order. -/
abbrev Expansion := ExceptT RenderFault (StateM (List Text))

/-- An evaluation as part of an expansion. -/
def evaluating {α : Type} (x : Evaluation α) : Expansion α := ExceptT.mk (pure x)

mutual

/-- Assigns an operand to a target. -/
def Target.assign? (s : Scope) (x : Operand) : Target → Evaluation Scope
  | .name _ n => .ok ((n, x) :: s)
  | .field _ _ => .error (.template .notNamespace)
  | .tuple targets =>
    match x with
    | .value v =>
      match v.items? with
      | none => misfit (.unpacking v.kind)
      | some items =>
        if items.length < targets.length then
          misfit (.tooFewValues targets.length items.length)
        else if targets.length < items.length then misfit (.tooManyValues targets.length)
        else Target.assignAll? s items targets
    | x => do
      let items ← x.items?
      if items.length < targets.length then misfit (.tooFewValues targets.length items.length)
      else if targets.length < items.length then misfit (.tooManyValues targets.length)
      else Target.assignAll? s items targets

/-- Assigns values to as many targets. -/
def Target.assignAll? (s : Scope) (items : List Value) : List Target → Evaluation Scope
  | [] => .ok s
  | t :: rest =>
    match items with
    | [] => .ok s
    | v :: items => do Target.assignAll? (← Target.assign? s (.value v) t) items rest

end

/-- Whether a target is refused before anything is assigned to it. -/
def Target.check? : Target → Evaluation Unit
  | .field _ _ => .error (.template .notNamespace)
  | _ => .ok ()

/-- The items of a loop that satisfy its condition. -/
def kept? (keeps : Value → Evaluation Bool) : List Value → Evaluation (List Value)
  | [] => .ok []
  | v :: rest => do
    if ← keeps v then return v :: (← kept? keeps rest) else kept? keeps rest

/-- The texts of the rounds of a loop. -/
def rounds (round : LoopState → Expansion Text) : List Value → List Value → Expansion Text
  | _, [] => return []
  | before, v :: after => do
    let t ← round ⟨before, v, after⟩
    return t ++ (← rounds round (v :: before) after)

/-- The names of the templates that an insertion looks for, in order: one, or several of which the
first that exists is taken. -/
inductive Wanted
  | one (name : Text)
  | any (names : List Text)
deriving DecidableEq, Repr

/-- The templates that an operand asks for. -/
def Wanted.ofOperand? : Operand → Evaluation Wanted
  | .undefined u => u.refuse
  | .value (.text n) => .ok (.one n)
  | x => do
    if ← x.isTruthy? then return .any ((← x.items?).map Value.plain) else return .any []

/-- The names in the order in which they are looked for. -/
def Wanted.names : Wanted → List Text
  | .one n => [n]
  | .any ns => ns

/-- What is reported if none of the templates exists. -/
def Wanted.problem : Wanted → RenderProblem
  | .one n => .missing n
  | .any ns => .noneOf ns

/-- Inserts a template in a scope; nothing is given if none of the wanted ones exists. -/
abbrev Insert := Wanted → Scope → Expansion (Option Text)

namespace Stmt

mutual

/-- The scope after a statement and the text it gives. -/
def expand? (template : Option Text) (insert : Insert) (s : Scope) :
    Stmt → Expansion (Scope × Text)
  | .text t => return (s, t)
  | .print e => do
    let x ← evaluating (e.eval? template [] s)
    return (s, ← evaluating x.plain?)
  | .cond branches otherwise => do
    match ← expandBranches? template insert s branches with
    | some result => return result
    | none => expandAll? template insert s otherwise
  | .loop target items condition body otherwise => do
    let x ← evaluating (items.eval? template [] s)
    let items ← evaluating x.items?
    let keeps (v : Value) : Evaluation Bool :=
      match condition with
      | none => .ok true
      | some e => do (← e.eval? template [] (← target.assign? s (.value v))).isTruthy?
    let items ← evaluating (kept? keeps items)
    if items = [] then do
      let (_, t) ← expandAll? template insert s otherwise
      return (s, t)
    else do
      let round (l : LoopState) : Expansion Text := do
        let s ← evaluating (target.assign? ((loopName, .loop l) :: s) (.value l.current))
        let (_, t) ← expandAll? template insert s body
        return t
      return (s, ← rounds round [] items)
  | .assign target e => do
    evaluating target.check?
    let x ← evaluating (e.eval? template [] s)
    return (← evaluating (target.assign? s x), [])
  | .capture target filtered body => do
    let (_, t) ← expandAll? template insert s body
    let x ← evaluating (filtered.eval? template t s)
    return (← evaluating (target.assign? s x), [])
  | .insert e ignoreMissing withContext => do
    let x ← evaluating (e.eval? template [] s)
    let wanted ← evaluating (Wanted.ofOperand? x)
    match ← insert wanted (if withContext then s else []) with
    | some t => return (s, t)
    | none => if ignoreMissing then return (s, []) else throw (.template wanted.problem)

/-- The scope after statements and the text they give. -/
def expandAll? (template : Option Text) (insert : Insert) (s : Scope) :
    List Stmt → Expansion (Scope × Text)
  | [] => return (s, [])
  | first :: rest => do
    let (s, t) ← expand? template insert s first
    let (s, u) ← expandAll? template insert s rest
    return (s, t ++ u)

/-- The scope after the first branch whose condition holds and the text it gives, if there is
such a branch. -/
def expandBranches? (template : Option Text) (insert : Insert) (s : Scope) :
    List (Expr × List Stmt) → Expansion (Option (Scope × Text))
  | [] => return none
  | (e, body) :: rest => do
    let x ← evaluating (e.eval? template [] s)
    if ← evaluating x.isTruthy? then return some (← expandAll? template insert s body)
    else expandBranches? template insert s rest

end

end Stmt

/-! ## Templates -/

/-- The statements of a source, once they have been checked. -/
def statements? (source : Text) : Except SourceFault (List Stmt) := do
  let body ← Stmt.parse? source
  match Stmt.firstFaults Filter.names Predicate.names false body with
  | some f => throw f
  | none => return body

/-- The statements of a template. -/
def body (t : Template) : List Stmt := (statements? t.source).toOption.getD []

/-- The first template that a library has. -/
def findFirst (library : Library) : List Text → Expansion (Option Template)
  | [] => return none
  | n :: rest => do
    match ← evaluating (library n) with
    | some t => modify (· ++ [n]); return some t
    | none => findFirst library rest

/-- The text of a template in a scope; the fuel bounds the depth of insertions. -/
def expandIn? (library : Library) : Nat → Template → Scope → Expansion Text
  | 0, _, _ => throw .nesting
  | fuel + 1, t, s => do
    let insert : Insert := fun wanted s => do
      match ← findFirst library wanted.names with
      | some t => return some (← expandIn? library fuel t s)
      | none => return none
    return (← Stmt.expandAll? t.name insert s t.body).2

/-- The greatest depth of insertions. -/
def maxInsertions : Nat := 100

/-- The text of a template for given names, and the names of the templates it took from the
library. -/
def run? (library : Library) (t : Template) (names : List (Text × Value)) :
    Except RenderFault Text × List Text :=
  let scope : Scope := names.reverse.map fun e => (e.1, .value e.2)
  (expandIn? library maxInsertions t scope).run.run []

end Template

end ThemeForge
