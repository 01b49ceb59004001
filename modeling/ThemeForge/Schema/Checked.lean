import ThemeForge.Value.Basic

/-!
# Checked data

Checking a value against a schema either gives typed data or every problem found, each with the
path of keys that leads to it. A problem in one field does not keep the others from being checked.

* `Problem`, `Problem.Cause`: what is wrong and where;
* `Checked`: data or problems, an applicative functor that collects problems from left to right;
* `Checked.field`, `Checked.model`: a field of a mapping, and a mapping with named fields.
-/

namespace ThemeForge

/-- What is wrong with a value. -/
inductive Problem.Cause
  | missing
  | notText
  | textNotUnicode
  | notBoolean
  | unreadableBoolean
  | notInteger
  | unreadableInteger
  | integerTooLong
  | fractionalNumber
  | infiniteNumber
  | notMapping
  | notModel (title : Text)
  | notChoice (options : List Text)
  | rule (statement : Text)
  | frozen
deriving DecidableEq, Repr

/-- Something wrong at the end of a path of keys. -/
structure Problem where
  path : List Text
  cause : Problem.Cause
deriving DecidableEq, Repr

namespace Problem

/-- The tag of a cause. -/
def Cause.tag : Cause → Text
  | .missing => "missing"
  | .notText => "string_type"
  | .textNotUnicode => "string_unicode"
  | .notBoolean => "bool_type"
  | .unreadableBoolean => "bool_parsing"
  | .notInteger => "int_type"
  | .unreadableInteger => "int_parsing"
  | .integerTooLong => "int_parsing_size"
  | .fractionalNumber => "int_from_float"
  | .infiniteNumber => "finite_number"
  | .notMapping => "dict_type"
  | .notModel _ => "model_type"
  | .notChoice _ => "enum"
  | .rule _ => "value_error"
  | .frozen => "frozen_instance"

/-- The wording of a cause. -/
def Cause.message : Cause → Text
  | .missing => "Field required"
  | .notText => "Input should be a valid string"
  | .textNotUnicode =>
    "Input should be a valid string, unable to parse raw data as a unicode string"
  | .notBoolean => "Input should be a valid boolean"
  | .unreadableBoolean => "Input should be a valid boolean, unable to interpret input"
  | .notInteger => "Input should be a valid integer"
  | .unreadableInteger =>
    "Input should be a valid integer, unable to parse string as an integer"
  | .integerTooLong =>
    "Unable to parse input string as an integer, exceeded maximum size"
  | .fractionalNumber =>
    "Input should be a valid integer, got a number with a fractional part"
  | .infiniteNumber => "Input should be a finite number"
  | .notMapping => "Input should be a valid dictionary"
  | .notModel title => "Input should be a valid dictionary or instance of " ++ title
  | .notChoice options =>
    "Input should be " ++ Text.join " or " (options.map fun o => "'" ++ o ++ "'")
  | .rule statement => "Value error, " ++ statement
  | .frozen => "Instance is frozen"

/-- The problem seen from one level further out. -/
def under (key : Text) (p : Problem) : Problem := { p with path := key :: p.path }

end Problem

/-- Typed data, or the problems that stand in its way. -/
inductive Checked (α : Type)
  | valid (a : α)
  | invalid (problems : List Problem)
deriving Repr

namespace Checked

variable {α β : Type}

/-- Applies a function to valid data. -/
def map (f : α → β) : Checked α → Checked β
  | .valid a => .valid (f a)
  | .invalid ps => .invalid ps

/-- Applies a checked function to checked data; the problems of both are kept. -/
def ap : Checked (α → β) → Checked α → Checked β
  | .valid f, x => x.map f
  | .invalid ps, .valid _ => .invalid ps
  | .invalid ps, .invalid qs => .invalid (ps ++ qs)

/-- A single problem at the value itself. -/
def fail (cause : Problem.Cause) : Checked α := .invalid [⟨[], cause⟩]

/-- Further checks on valid data. -/
def bind (x : Checked α) (f : α → Checked β) : Checked β :=
  match x with
  | .valid a => f a
  | .invalid ps => .invalid ps

/-- Refuses valid data that breaks a rule. -/
def ensure (rule : α → Bool) (statement : Text) (x : Checked α) : Checked α :=
  x.bind fun a => if rule a then .valid a else fail (.rule statement)

/-- The check of a part, seen from the whole. -/
def under (key : Text) : Checked α → Checked α
  | .valid a => .valid a
  | .invalid ps => .invalid (ps.map (Problem.under key))

/-- A field that may be left out. -/
def field (m : Value.Mapping) (key : Text) (fallback : α) (check : Value → Checked α) : Checked α :=
  match m.getText? key with
  | some v => (check v).under key
  | none => .valid fallback

/-- A field that must be there. -/
def required (m : Value.Mapping) (key : Text) (check : Value → Checked α) : Checked α :=
  match m.getText? key with
  | some v => (check v).under key
  | none => .invalid [⟨[key], .missing⟩]

/-- The named fields of a mapping; other kinds of values are refused. -/
def model (title : Text) (fields : Value.Mapping → Checked α) : Value → Checked α
  | .mapping m => fields m
  | _ => fail (.notModel title)

/-- Null, or data of another kind. -/
def optional (check : Value → Checked α) : Value → Checked (Option α)
  | .null => .valid none
  | v => (check v).map some

/-- The data, or the problems as an error. -/
def toExcept : Checked α → Except (List Problem) α
  | .valid a => .ok a
  | .invalid ps => .error ps

end Checked

end ThemeForge
