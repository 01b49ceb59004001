import ThemeForge.Template.Lexer
import ThemeForge.Template.Tree

/-!
# From tokens to trees

Reading is predictive: one token, now and then two, decides what comes next. Binary operators
associate to the left; a sign binds more tightly than a power, and a filter applies to the signed
expression in front of it. Of the tags there are those for conditions, loops, assignments and
insertions; macros, blocks, imports and the tags around them are left out.

* `expression`: expressions, by levels of precedence;
* `statements`: text, printed expressions and tags;
* `Stmt.parse?`: the statements of a source.
-/

namespace ThemeForge.Template

/-- What is left to read: the tokens, the line of the token before them, and the fault that
follows them. -/
structure Input where
  tokens : List Token
  line : Nat
  fault : Option SourceFault
deriving Repr

/-- A reader of tokens. -/
abbrev Reading := StateT Input (Except SourceFault)

namespace Reading

/-- The next token; past the last one, the end. -/
def token : Reading Token := do
  let s ← get
  return match s.tokens with
    | t :: _ => t
    | [] => ⟨s.line, .finish⟩

/-- What the next token is. -/
def kind : Reading TokenKind := return (← token).kind

/-- The line of the next token. -/
def line : Reading Nat := return (← token).line

/-- Reports a problem on a line. -/
def failOn {α : Type} (line : Nat) (p : SourceProblem) : Reading α := throw ⟨line, p⟩

/-- Reports a problem on the line of the next token. -/
def fail {α : Type} (p : SourceProblem) : Reading α := do failOn (← line) p

/-- Stops at the fault that follows the tokens, if they are used up. -/
def settle : Reading Unit := do
  let s ← get
  match s.tokens, s.fault with
  | [], some f => throw f
  | _, _ => return ()

/-- Passes over the next token. -/
def advance : Reading Unit := do
  let s ← get
  match s.tokens with
  | t :: rest => set { s with tokens := rest, line := t.line }; settle
  | [] => return ()

/-- The token after the next one. -/
def second : Reading TokenKind := do
  let s ← get
  match s.tokens, s.fault with
  | _ :: t :: _, _ => return t.kind
  | _ :: [], some f => throw f
  | _, _ => return .finish

/-- Whether the next token is `k`, which is then passed over. -/
def accept (k : TokenKind) : Reading Bool := do
  if (← kind) = k then advance; return true else return false

/-- Passes over the token `k`, which must come next. -/
def expect (k : TokenKind) : Reading Unit := do
  let found ← kind
  if found = k then advance else fail (.expected k.describe found)

/-- Reads a name. -/
def expectName : Reading Text := do
  match ← kind with
  | .name n => advance; return n
  | other => fail (.expected "name" other)

/-- Repeats a step while it gives something. -/
def many {α : Type} (step : Reading (Option α)) : Nat → Reading (List α)
  | 0 => return []
  | n + 1 => do
    match ← step with
    | some a => return a :: (← many step n)
    | none => return []

/-- Extends a value as long as a step succeeds. -/
def extend {α : Type} (step : α → Reading (Option α)) : Nat → α → Reading α
  | 0, a => return a
  | n + 1, a => do
    match ← step a with
    | some b => extend step n b
    | none => return a

/-- A bound on the number of steps, each of which passes over a token. -/
def bound : Reading Nat := return (← get).tokens.length + 1

end Reading

open Reading

/-- The token of a keyword. -/
def word (s : Text) : TokenKind := .name s

/-! ## Expressions

The readers of this section take the reader `self` of whole expressions as an argument. -/

/-- Items separated by commas up to a closing mark, which is passed over; a comma may come last. -/
def separated {α : Type} (closing : Mark) (item : Reading α) : Reading (List α) := do
  let rest : Reading (Option α) := do
    if (← kind) = .mark closing then return none
    expect (.mark .comma)
    if (← kind) = .mark closing then return none
    return some (← item)
  if ← accept (.mark closing) then return []
  let first ← item
  let others ← many rest (← bound)
  expect (.mark closing)
  return first :: others

/-- A key and its value. -/
def entry (self : Reading Expr) : Reading (Expr × Expr) := do
  let k ← self
  expect (.mark .colon)
  return (k, ← self)

/-- Whether nothing can follow in a tuple: a closing delimiter or one of the words `ends`. -/
def isTupleEnd (ends : List Text) : Reading Bool := do
  match ← kind with
  | .printEnd | .blockEnd | .mark .closeParen => return true
  | .name n => return ends.contains n
  | _ => return false

/-- One item, or several separated by commas. No item at all is a tuple only inside parentheses. -/
def tupleOf (item : Reading Expr) (ends : List Text) (inParens : Bool) : Reading Expr := do
  let start ← line
  if ← isTupleEnd ends then
    if inParens then return .tuple start [] else fail (.expectedExpression (← kind))
  let first ← item
  if (← kind) ≠ .mark .comma then return first
  let more : Reading (Option Expr) := do
    if (← kind) ≠ .mark .comma then return none
    advance
    if ← isTupleEnd ends then return none
    return some (← item)
  let others ← many more (← bound)
  return .tuple start (first :: others)

/-- The constant that a word stands for. -/
def constant? (n : Text) : Option Value :=
  if n = "true" ∨ n = "True" then some (.bool true)
  else if n = "false" ∨ n = "False" then some (.bool false)
  else if n = "none" ∨ n = "None" then some .null
  else none

/-- One of the string literals that stand next to each other. -/
def literalPart : Reading (Option Text) := do
  match ← kind with
  | .string t => advance; return some t
  | _ => return none

/-- A name, a literal, or something in brackets. -/
def primary (self : Reading Expr) : Reading Expr := do
  let start ← line
  match ← kind with
  | .name n =>
    advance
    return match constant? n with
      | some v => .literal v
      | none => .name start n
  | .string _ => return .literal (.text (Text.concat (← many literalPart (← bound))))
  | .integer n => advance; return .literal (.int n)
  | .float d => advance; return .literal (.float d)
  | .mark .openParen =>
    advance
    let e ← tupleOf self [] true
    expect (.mark .closeParen)
    return e
  | .mark .openBracket => advance; return .list (← separated .closeBracket self)
  | .mark .openBrace => advance; return .mapping (← separated .closeBrace (entry self))
  | other => fail (.unexpectedToken other)

/-- Arguments of a call: positional ones and named ones. -/
abbrev Arguments := List Expr × List (Text × Expr)

/-- One more argument; named ones come last. -/
def argument (self : Reading Expr) (start : Nat) (read : Arguments) : Reading Arguments := do
  let positional : Reading Arguments := do
    if read.2.isEmpty then return (read.1 ++ [← self], [])
    else failOn start .badCall
  match ← kind with
  | .name n =>
    if (← second) = .mark .assign then
      advance
      advance
      return (read.1, read.2 ++ [(n, ← self)])
    else positional
  | _ => positional

/-- Arguments in parentheses. -/
def arguments (self : Reading Expr) : Reading Arguments := do
  let start ← line
  expect (.mark .openParen)
  if ← accept (.mark .closeParen) then return ([], [])
  let first ← argument self start ([], [])
  let more (read : Arguments) : Reading (Option Arguments) := do
    if (← kind) = .mark .closeParen then return none
    expect (.mark .comma)
    if (← kind) = .mark .closeParen then return none
    return some (← argument self start read)
  let all ← extend more (← bound) first
  expect (.mark .closeParen)
  return all

/-- The arguments after a filter or test, if there are any. -/
def optionalArguments (self : Reading Expr) : Reading Arguments := do
  if (← kind) = .mark .openParen then arguments self else return ([], [])

/-- An attribute, item or call after an expression. -/
def postfixStep (self : Reading Expr) (e : Expr) : Reading (Option Expr) := do
  match ← kind with
  | .mark .dot =>
    advance
    let l ← line
    let key ← kind
    advance
    match key with
    | .name n => return some (.attribute e n)
    | .integer n => return some (.item e (.literal (.int n)))
    | _ => failOn l .nameOrNumber
  | .mark .openBracket =>
    let start ← line
    advance
    match ← separated .closeBracket self with
    | [key] => return some (.item e key)
    | keys => return some (.item e (.tuple start keys))
  | .mark .openParen =>
    let (positional, named) ← arguments self
    return some (.call e positional named)
  | _ => return none

/-- Attributes, items and calls after an expression. -/
def postfixes (self : Reading Expr) (e : Expr) : Reading Expr := do
  extend (postfixStep self) (← bound) e

/-- One more part of a dotted name. -/
def dottedPart (n : Text) : Reading (Option Text) := do
  if ← accept (.mark .dot) then return some (Text.concat [n, ".", ← expectName])
  else return none

/-- The name of a filter or test, which may be dotted. -/
def dottedName : Reading Text := do
  let first ← expectName
  extend dottedPart (← bound) first

/-- A filter after its bar. -/
def filterCall (self : Reading Expr) (e : Expr) : Reading Expr := do
  let start ← line
  let n ← dottedName
  let (positional, named) ← optionalArguments self
  return .filter start e n positional named

/-- Whether a token can start the argument that a test takes without parentheses. -/
def startsArgument : TokenKind → Bool
  | .name n => !([("else" : Text), "or", "and"].contains n)
  | .string _ | .integer _ | .float _ => true
  | .mark .openParen | .mark .openBracket | .mark .openBrace => true
  | _ => false

/-- A test after its `is`, which stood on line `start`. -/
def testCall (self : Reading Expr) (start : Nat) (e : Expr) : Reading Expr := do
  let negated ← accept (word "not")
  let n ← dottedName
  let (positional, named) ←
    if (← kind) = .mark .openParen then arguments self
    else if startsArgument (← kind) then
      if (← kind) = word "is" then fail .chainedTest
      else
        let e ← primary self
        pure ([← postfixes self e], [])
    else pure ([], [])
  let result := Expr.test start e n positional named
  return if negated then .negate result else result

/-- A filter, test or call after an expression. -/
def filterStep (self : Reading Expr) (e : Expr) : Reading (Option Expr) := do
  let start ← line
  match ← kind with
  | .mark .pipe => advance; return some (← filterCall self e)
  | .name n =>
    if n = "is" then
      advance
      return some (← testCall self start e)
    else return none
  | .mark .openParen =>
    let (positional, named) ← arguments self
    return some (.call e positional named)
  | _ => return none

/-- A sign. -/
def sign : Reading (Option Bool) := do
  match ← kind with
  | .mark .minus => advance; return some true
  | .mark .plus => advance; return some false
  | _ => return none

/-- A signed expression with its filters. -/
def unary (self : Reading Expr) : Reading Expr := do
  let signs ← many sign (← bound)
  let e ← postfixes self (← primary self)
  extend (filterStep self) (← bound) (signs.foldr .signed e)

/-- Operands of operators of one level, which associate to the left. -/
def leftAssociative (operator? : Mark → Option Arithmetic) (operand : Reading Expr) :
    Reading Expr := do
  let step (left : Expr) : Reading (Option Expr) := do
    match ← kind with
    | .mark m =>
      match operator? m with
      | some op => advance; return some (.arithmetic op left (← operand))
      | none => return none
    | _ => return none
  let first ← operand
  extend step (← bound) first

/-- The operator of powers. -/
def powerMark? : Mark → Option Arithmetic
  | .doubleStar => some .pow
  | _ => none

/-- The operators of products. -/
def productMark? : Mark → Option Arithmetic
  | .star => some .mul
  | .slash => some .div
  | .doubleSlash => some .floorDiv
  | .percent => some .mod
  | _ => none

/-- The operators of sums. -/
def sumMark? : Mark → Option Arithmetic
  | .plus => some .add
  | .minus => some .sub
  | _ => none

/-- Powers. -/
def power (self : Reading Expr) : Reading Expr := leftAssociative powerMark? (unary self)

/-- Products. -/
def product (self : Reading Expr) : Reading Expr := leftAssociative productMark? (power self)

/-- Products joined by tildes. -/
def concatenation (self : Reading Expr) : Reading Expr := do
  let more : Reading (Option Expr) := do
    if ← accept (.mark .tilde) then return some (← product self) else return none
  let first ← product self
  match ← many more (← bound) with
  | [] => return first
  | rest => return .concat (first :: rest)

/-- Sums. -/
def sum (self : Reading Expr) : Reading Expr := leftAssociative sumMark? (concatenation self)

/-- The comparison that a mark stands for. -/
def comparisonMark? : Mark → Option Comparison
  | .equal => some .equal
  | .notEqual => some .notEqual
  | .less => some .less
  | .lessEqual => some .lessEqual
  | .greater => some .greater
  | .greaterEqual => some .greaterEqual
  | _ => none

/-- A comparison operator. -/
def comparisonOperator : Reading (Option Comparison) := do
  match ← kind with
  | .mark m =>
    match comparisonMark? m with
    | some c => advance; return some c
    | none => return none
  | .name n =>
    if n = "in" then advance; return some .member
    else if n = "not" then
      if (← second) = word "in" then
        advance
        advance
        return some .notMember
      else return none
    else return none
  | _ => return none

/-- Sums in a chain of comparisons. -/
def comparison (self : Reading Expr) : Reading Expr := do
  let more : Reading (Option (Comparison × Expr)) := do
    match ← comparisonOperator with
    | some c => return some (c, ← sum self)
    | none => return none
  let first ← sum self
  match ← many more (← bound) with
  | [] => return first
  | rest => return .compare first rest

/-- A negation word. -/
def negation : Reading (Option Unit) := do
  if ← accept (word "not") then return some () else return none

/-- Negated comparisons. -/
def negated (self : Reading Expr) : Reading Expr := do
  let nots ← many negation (← bound)
  return nots.foldr (fun _ e => .negate e) (← comparison self)

/-- Operands joined by a word. -/
def joined (w : Text) (join : Expr → Expr → Expr) (operand : Reading Expr) : Reading Expr := do
  let step (left : Expr) : Reading (Option Expr) := do
    if ← accept (word w) then return some (join left (← operand)) else return none
  let first ← operand
  extend step (← bound) first

/-- Disjunctions of conjunctions. -/
def disjunction (self : Reading Expr) : Reading Expr :=
  joined "or" .either (joined "and" .both (negated self))

/-- A choice after the expression for the first case; `start` is the line it is reported for. -/
def choiceStep (self : Reading Expr) (seen : Nat × Expr) :
    Reading (Option (Nat × Expr)) := do
  if ← accept (word "if") then
    let condition ← disjunction self
    let otherwise ← if ← accept (word "else") then pure (some (← self)) else pure none
    return some (← line, .choice seen.1 condition seen.2 otherwise)
  else return none

/-- An expression; the fuel bounds the depth of nesting. -/
def expression : Nat → Reading Expr
  | 0 => do fail (.unexpectedToken (← kind))
  | n + 1 => do
    let start ← line
    let first ← disjunction (expression n)
    return (← extend (choiceStep (expression n)) (← bound) (start, first)).2

/-- A bound on the depth of nesting. -/
def depth : Reading Nat := bound

/-- An expression. -/
def wholeExpression : Reading Expr := do expression (← depth)

/-- An expression or a tuple without parentheses; a choice is left out if `choice` is false. -/
def looseTuple (choice : Bool) (ends : List Text) : Reading Expr := do
  let n ← depth
  tupleOf (if choice then expression n else disjunction (expression n)) ends false

/-! ## Statements -/

/-- A target of assignments. -/
def target (ends : List Text) : Reading Target := do
  let start ← line
  let n ← depth
  let e ← tupleOf (primary (expression n)) ends false
  match e.target? with
  | some t => return t
  | none => failOn start (.notAssignable e.describe)

/-- A target of assignments, or a field of a namespace. -/
def targetOrField : Reading Target := do
  if (← second) = .mark .dot then
    let owner ← expectName
    advance
    return .field owner (← expectName)
  else target []

/-- What is open around a statement: for each block the tags that may close or continue it, and
the names of the tags, the innermost first. -/
structure Surroundings where
  ends : List (List Text)
  tags : List Text
deriving Repr

namespace Surroundings

/-- What is open at the outermost level. -/
def none : Surroundings := ⟨[], []⟩

/-- The tags that may come next. -/
def wanted (s : Surroundings) : List Text := s.ends.headD []

/-- The problem of a tag that is not known here. -/
def unknownTag (s : Surroundings) (n : Text) : SourceProblem :=
  .unknownTag n s.wanted (s.ends.any fun e => e.contains n) s.tags.head?

/-- The problem of a template that ends too early. -/
def unexpectedEnd (s : Surroundings) : SourceProblem := .unexpectedEnd s.wanted s.tags.head?

end Surroundings

/-- A reader of statements up to a tag that ends them. -/
abbrev BlockReader := Surroundings → Reading (List Stmt)

/-- The statements of a block up to one of the tags `ends`, which is not passed over. -/
def blockUpTo (inner : BlockReader) (s : Surroundings) (ends : List Text) :
    Reading (List Stmt) := do
  let _ ← accept (.mark .colon)
  expect .blockEnd
  let s := { s with ends := ends :: s.ends }
  let body ← inner s
  if (← kind) = .finish then fail s.unexpectedEnd else return body

/-- A tag that has been read. -/
def tagName : Reading Text := do
  match ← kind with
  | .name n => advance; return n
  | _ => advance; return []

/-- One more branch of a condition; nothing once the branch without condition has been read. -/
def branch (inner : BlockReader) (s : Surroundings) : Reading (Expr × List Stmt) := do
  let condition ← looseTuple false []
  return (condition, ← blockUpTo inner s ["elif", "else", "endif"])

/-- The branches of a condition after its first. -/
def branches (inner : BlockReader) (s : Surroundings) :
    Nat → Reading (List (Expr × List Stmt) × List Stmt)
  | 0 => return ([], [])
  | n + 1 => do
    let tag ← tagName
    if tag = "elif" then
      let b ← branch inner s
      let (bs, otherwise) ← branches inner s n
      return (b :: bs, otherwise)
    else if tag = "else" then
      let body ← blockUpTo inner s ["endif"]
      advance
      return ([], body)
    else return ([], [])

/-- A condition after its tag. -/
def condition (inner : BlockReader) (s : Surroundings) : Reading Stmt := do
  let first ← branch inner s
  let (bs, otherwise) ← branches inner s (← bound)
  return .cond (first :: bs) otherwise

/-- A loop after its tag. -/
def loop (inner : BlockReader) (s : Surroundings) : Reading Stmt := do
  let t ← target ["in"]
  expect (word "in")
  let items ← looseTuple false ["recursive"]
  let condition ← if ← accept (word "if") then pure (some (← wholeExpression)) else pure none
  let _ ← accept (word "recursive")
  let body ← blockUpTo inner s ["endfor", "else"]
  let tag ← tagName
  if tag = "endfor" then return .loop t items condition body []
  else
    let otherwise ← blockUpTo inner s ["endfor"]
    advance
    return .loop t items condition body otherwise

/-- An assignment after its tag. -/
def assignment (inner : BlockReader) (s : Surroundings) : Reading Stmt := do
  let t ← targetOrField
  if ← accept (.mark .assign) then return .assign t (← looseTuple true [])
  else
    let n ← depth
    let step (e : Expr) : Reading (Option Expr) := do
      if ← accept (.mark .pipe) then return some (← filterCall (expression n) e) else return none
    let filtered ← extend step (← bound) .captured
    let body ← blockUpTo inner s ["endset"]
    advance
    return .capture t filtered body

/-- Whether two words come next, which are then passed over. -/
def acceptPair (v w : Text) : Reading Bool := do
  if (← kind) = word v then
    if (← second) = word w then
      advance
      advance
      return true
    else return false
  else return false

/-- An insertion of another template after its tag. -/
def insertion : Reading Stmt := do
  let e ← wholeExpression
  let ignoreMissing ← acceptPair "ignore" "missing"
  if ← acceptPair "with" "context" then return .insert e ignoreMissing true
  else if ← acceptPair "without" "context" then return .insert e ignoreMissing false
  else return .insert e ignoreMissing true

/-- A statement from the name of its tag on. -/
def statement (inner : BlockReader) (s : Surroundings) : Reading Stmt := do
  match ← kind with
  | .name n =>
    let s' := { s with tags := n :: s.tags }
    if n = "if" then advance; condition inner s'
    else if n = "for" then advance; loop inner s'
    else if n = "set" then advance; assignment inner s'
    else if n = "include" then advance; insertion
    else fail (s.unknownTag n)
  | _ => fail .tagNameExpected

/-- Statements up to the end or a tag that ends the block; the fuel bounds their number. -/
def statements : Nat → BlockReader
  | 0, _ => return []
  | n + 1, s => do
    match ← kind with
    | .data t => advance; return .text t :: (← statements n s)
    | .printStart =>
      advance
      let e ← looseTuple true []
      expect .printEnd
      return .print e :: (← statements n s)
    | .blockStart =>
      advance
      match ← kind with
      | .name w =>
        if s.wanted.contains w then return []
        let first ← statement (statements n) s
        expect .blockEnd
        return first :: (← statements n s)
      | _ => fail .tagNameExpected
    | _ => return []

/-- The statements of a source. -/
def Stmt.parse? (source : Text) : Except SourceFault (List Stmt) :=
  let (ts, fault) := tokens source
  let read : Reading (List Stmt) := do
    settle
    statements (← bound) .none
  (read.run ⟨ts, 1, fault⟩).map Prod.fst

end ThemeForge.Template
