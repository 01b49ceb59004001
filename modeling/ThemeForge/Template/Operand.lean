import ThemeForge.Template.RenderFault

/-!
# Operands

What expressions evaluate to. Besides the values there are undefined results, which remember what
was missing, and the state of a loop.

* `Undefined`, `LoopState`, `Operand`: the types;
* `Operand.isTruthy?`, `Operand.plain?`, `Operand.items?`: what conditions, output and loops make
  of an operand. A strict undefined result refuses all three; a lenient one is false and empty.
-/

namespace ThemeForge

namespace Template

/-- A result that is not there, and what to say about it. -/
structure Undefined where
  message : Text
  strict : Bool
deriving DecidableEq, Repr

/-- A round of a loop: the item, those before it (the last one first) and those after it. -/
structure LoopState where
  before : List Value
  current : Value
  after : List Value
deriving Repr

/-- What an expression evaluates to. -/
inductive Operand
  | value (v : Value)
  | undefined (u : Undefined)
  | loop (l : LoopState)
deriving Repr

/-- The result of an evaluation. -/
abbrev Evaluation := Except RenderFault

/-- Reports an operation that does not fit. -/
def misfit {α : Type} (f : OperationFault) : Evaluation α := .error (.operation f)

namespace Undefined

/-- Reports what is missing. -/
def refuse {α : Type} (u : Undefined) : Evaluation α := .error (.template (.undefined u.message))

/-- A name that is not defined. -/
def name (n : Text) : Undefined := ⟨Text.concat [n.quote, " is undefined"], true⟩

end Undefined

namespace LoopState

/-- The number of the round, from one on. -/
def index (l : LoopState) : Nat := l.before.length + 1

/-- The number of rounds. -/
def length (l : LoopState) : Nat := l.before.length + 1 + l.after.length

/-- The written form. -/
def text (l : LoopState) : Text :=
  Text.concat ["<LoopContext ", Text.ofNat l.index, "/", Text.ofNat l.length, ">"]

/-- A number as an operand. -/
def natural (n : Nat) : Operand := .value (.int n)

/-- A neighbouring item, if there is one. -/
def neighbour (message : Text) : List Value → Operand
  | v :: _ => .value v
  | [] => .undefined ⟨message, true⟩

/-- What a loop tells about itself. -/
def field? (l : LoopState) (n : Text) : Option Operand :=
  if n = "index" then some (natural l.index)
  else if n = "index0" then some (natural l.before.length)
  else if n = "revindex" then some (natural (l.after.length + 1))
  else if n = "revindex0" then some (natural l.after.length)
  else if n = "length" then some (natural l.length)
  else if n = "first" then some (.value (.bool l.before.isEmpty))
  else if n = "last" then some (.value (.bool l.after.isEmpty))
  else if n = "depth" then some (natural 1)
  else if n = "depth0" then some (natural 0)
  else if n = "previtem" then some (neighbour "there is no previous item" l.before)
  else if n = "nextitem" then some (neighbour "there is no next item" l.after)
  else none

end LoopState

namespace Operand

/-- The kind of an operand, as messages name it. -/
def kind : Operand → Text
  | .value v => v.kind
  | .undefined u => if u.strict then "StrictUndefined" else "Undefined"
  | .loop _ => "LoopContext"

/-- How messages name the owner of what is missing. -/
def owner : Operand → Text
  | .value .null => "None"
  | .loop _ => "jinja2.runtime.LoopContext object"
  | x => Text.concat [x.kind, " object"]

/-- Whether an operand counts as true. -/
def isTruthy? : Operand → Evaluation Bool
  | .value v => .ok v.isTruthy
  | .undefined u => if u.strict then u.refuse else .ok false
  | .loop _ => .ok true

/-- The written form. -/
def plain? : Operand → Evaluation Text
  | .value (.text t) => .ok t
  | .value v => if v.isWritable then .ok v.plain else misfit .longInteger
  | .undefined u => if u.strict then u.refuse else .ok []
  | .loop l => .ok l.text

/-- The items to go through. -/
def items? : Operand → Evaluation (List Value)
  | .value v =>
    match v.items? with
    | some items => .ok items
    | none => misfit (.iteration v.kind)
  | .undefined u => if u.strict then u.refuse else .ok []
  | .loop l => .ok (l.before.reverse ++ l.current :: l.after)

/-- The value of an operand; undefined results and loops are none. -/
def value? : Operand → Evaluation Value
  | .value v => .ok v
  | .undefined u => u.refuse
  | .loop l => .ok (.text l.text)

/-- The result of asking for an attribute that is not there. -/
def lacksAttribute (x : Operand) (n : Text) : Operand :=
  .undefined ⟨Text.concat [x.owner.quote, " has no attribute ", n.quote], true⟩

/-- The result of asking for an item that is not there. -/
def lacksItem (x : Operand) (key : Value) : Operand :=
  .undefined ⟨Text.concat [x.owner, " has no element ", key.quoted], true⟩

/-- The item of a sequence at an index, which counts from the end if negative. -/
def itemAt? {α : Type} (items : List α) (n : Int) : Option α :=
  if n < 0 then (if -n ≤ items.length then items[(items.length + n).toNat]? else none)
  else items[n.toNat]?

/-- The item of a value at a key. -/
def itemOf? (v key : Value) : Option Value :=
  match v with
  | .mapping m => if key.isKey then Value.Mapping.get? m key else none
  | .text t => key.asInt?.bind fun n => (itemAt? t n).map fun c => .text [c]
  | .list items => key.asInt?.bind (itemAt? items)
  | .tuple items => key.asInt?.bind (itemAt? items)
  | .bytes b => key.asInt?.bind fun n => (itemAt? b n).map fun x => .int x.toNat
  | _ => none

/-- An attribute of an operand. Names that are no attributes are looked up as keys. -/
def attribute? (x : Operand) (n : Text) : Evaluation Operand :=
  match x with
  | .undefined u => u.refuse
  | .loop l => .ok ((l.field? n).getD (x.lacksAttribute n))
  | .value v => .ok (match itemOf? v (.text n) with
    | some w => .value w
    | none => x.lacksAttribute n)

/-- An item of an operand. Texts that are no keys are looked up as attributes. -/
def item? (x key : Operand) : Evaluation Operand := do
  match x with
  | .undefined u => u.refuse
  | .loop l =>
    let k ← key.value?
    return match k with
      | .text n => (l.field? n).getD (x.lacksAttribute n)
      | k => x.lacksItem k
  | .value v =>
    let k ← key.value?
    return match itemOf? v k with
      | some w => .value w
      | none =>
        match k with
        | .text n => x.lacksAttribute n
        | k => x.lacksItem k

/-- Whether an operand is there. -/
def isDefined : Operand → Bool
  | .undefined _ => false
  | _ => true

end Operand

end Template

end ThemeForge
