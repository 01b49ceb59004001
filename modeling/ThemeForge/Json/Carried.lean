import ThemeForge.Json.StringBody
import ThemeForge.Value.Printer

/-!
# What JSON carries

A value that is written as JSON does not always come back as it was. Keys become texts or cannot be
written at all, tuples come back as lists, and of what JSON has no form for comes back a text; which
one is up to the writer, and nothing depends on it.

* `Json.name?`: the name under which an entry is written;
* `Json.carried?`: what comes back of a value, if it can be written;
* `Json.Writer`, `Json.written?`: how deep values may be nested, and what comes back of an object;
* `Json.isCarried`: the values that come back as they were.
-/

namespace ThemeForge.Json

/-- A double as JSON writers put it; there are words for those that are no numbers. -/
def numberText (d : Double) : Text :=
  match d.view with
  | .nan => "NaN"
  | .infinite negative => if negative then "-Infinity" else "Infinity"
  | .finite _ _ _ => d.text

/-- The name of an entry for its key; what is no scalar is no key. -/
def name? : Value → Option Text
  | .text t => some t.joinPairs
  | .null => some "null"
  | .bool b => some (if b then "true" else "false")
  | .int n => if (Value.int n).isWritable then some (Text.ofInt n) else none
  | .float d => some (numberText d)
  | _ => none

/-- The text for a value that JSON has no form for. -/
def substitute : Value → Text
  | .moment m => m.text 'T'
  | v => v.plain

mutual

/-- What comes back of a value. A long integer cannot be written, nor can an entry without a
name. -/
def carried? : Value → Option Value
  | .null => some .null
  | .bool b => some (.bool b)
  | .int n => if (Value.int n).isWritable then some (.int n) else none
  | .float d => some (.float d)
  | .text t => some (.text t.joinPairs)
  | .list items => (carriedItems? items).map .list
  | .tuple items => (carriedItems? items).map .list
  | .mapping entries => (carriedEntries? entries).map .mapping
  | v => some (.text (substitute v).joinPairs)

/-- What comes back of items. -/
def carriedItems? : List Value → Option (List Value)
  | [] => some []
  | v :: rest => do return (← carried? v) :: (← carriedItems? rest)

/-- What comes back of entries. -/
def carriedEntries? : List (Value × Value) → Option (List (Value × Value))
  | [] => some []
  | (k, v) :: rest => do return (.text (← name? k), ← carried? v) :: (← carriedEntries? rest)

end

/-- What writes JSON; how deep values may be nested is up to the interpreter. -/
class Writer where
  maxDepth : Nat

/-- What comes back of an object, if it can be written. -/
def written? [Writer] (entries : Value.Mapping) : Option Value.Mapping :=
  if entries.all fun e => e.2.isWithin Writer.maxDepth then carriedEntries? entries else none

/-- A key that comes back as it was: a text in which no pair of surrogates is split. -/
def isName : Value → Bool
  | .text t => t.joinPairs == t
  | _ => false

mutual

/-- Whether a value comes back as it was. -/
def isCarried : Value → Bool
  | .null => true
  | .bool _ => true
  | .int n => (Value.int n).isWritable
  | .float _ => true
  | .text t => t.joinPairs == t
  | .list items => areCarried items
  | .mapping entries => areEntriesCarried entries
  | _ => false

/-- Whether items come back as they were. -/
def areCarried : List Value → Bool
  | [] => true
  | v :: rest => isCarried v && areCarried rest

/-- Whether entries come back as they were. -/
def areEntriesCarried : List (Value × Value) → Bool
  | [] => true
  | (k, v) :: rest => isName k && isCarried v && areEntriesCarried rest

end

end ThemeForge.Json
