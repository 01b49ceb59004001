import ThemeForge.Schema.Checked

/-!
# Records

A checked model as a list of named fields, for front ends that show fields or assign them by name.
A frozen record refuses every assignment; the others accept any value for a field they have.

* `Record`, `Record.toValue`: the fields and their mapping;
* `Record.assign`: assignment to a field by name.
-/

namespace ThemeForge

/-- Named fields of a model. -/
structure Record where
  title : Text
  frozen : Bool
  fields : List (Text × Value)
deriving Repr

namespace Record

/-- Why a field cannot be assigned. -/
inductive Fault
  | frozen (field : Text)
  | unknown (title field : Text)
deriving DecidableEq, Repr

/-- A frozen field as a problem of the record. -/
def frozenProblem (field : Text) : Problem := ⟨[field], .frozen⟩

/-- The wording for an unknown field. -/
def unknownMessage (title field : Text) : Text :=
  "\"" ++ title ++ "\" object has no field \"" ++ field ++ "\""

/-- Assigns a value to a field. -/
def assign (r : Record) (field : Text) (v : Value) : Except Fault Record :=
  if r.frozen then .error (.frozen field)
  else if r.fields.any (fun e => e.1 == field) then
    .ok { r with fields := r.fields.map fun e => if e.1 = field then (e.1, v) else e }
  else .error (.unknown r.title field)

/-- The fields as a mapping. -/
def toValue (r : Record) : Value := .mapping (r.fields.map fun e => (.text e.1, e.2))

end Record

end ThemeForge
