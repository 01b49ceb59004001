import ThemeForge.Failure.Crash
import ThemeForge.Template.Fault
import ThemeForge.Value.Placeholder

/-!
# Faults of expansion

A template that is well formed can still fail to expand: it may use what is not there, or apply an
operation to values that it does not fit. Only faults of the first sort are reported as the
template's own; those of operations are faults of the values.

* `OperationFault`: an operation that does not fit its operands;
* `RenderProblem`: what is wrong with the template itself;
* `LoadFault`: a source that is refused, or on which the reader fails;
* `RenderFault`: what is wrong with the template or an operation, a template that cannot be read, or
  a failure of the engine.
-/

namespace ThemeForge.Template

/-- The operations that refuse zero. -/
inductive Division
  | exact
  | floor
  | remainder
  | floatExact
  | floatFloor
  | floatRemainder
  | power
deriving DecidableEq, Repr

/-- An operation that does not fit its operands, of which the kinds are given. -/
inductive OperationFault
  | operands (operator left right : Text)
  | operand (operator kind : Text)
  | join (whole other : Text)
  | repetition (kind : Text)
  | tooManyRepetitions
  | noMemory
  | division (d : Division)
  | hugeInteger
  | hugeQuotient
  | hugePower
  | longInteger
  | order (operator left right : Text)
  | container (kind : Text)
  | textMember (kind : Text)
  | iteration (kind : Text)
  | length (kind : Text)
  | call (kind : Text)
  | loopCall
  | unhashable (kind : Text)
  | placeholder (f : Placeholder.Fault)
  | tooFewValues (wanted got : Nat)
  | tooManyValues (wanted : Nat)
  | unpacking (kind : Text)
  | tooManyArguments (name : Text) (fewest most given : Nat)
  | missingArguments (name : Text) (missing : List Text)
  | unknownArgument (name argument : Text)
  | repeatedArgument (name argument : Text)
  | notInteger (kind : Text)
  | trimmedBy
deriving DecidableEq, Repr

namespace OperationFault

/-- The wording of a division by zero. -/
def divisionMessage : Division → Text
  | .exact => "division by zero"
  | .floor => "integer division or modulo by zero"
  | .remainder => "integer modulo by zero"
  | .floatExact => "float division by zero"
  | .floatFloor => "float floor division by zero"
  | .floatRemainder => "float modulo"
  | .power => "0.0 cannot be raised to a negative power"

/-- Quoted names, the last one after an "and". -/
def nameList : List Text → Text
  | [] => []
  | [a] => a.quote
  | [a, b] => Text.concat [a.quote, " and ", b.quote]
  | [a, b, c] => Text.concat [a.quote, ", ", b.quote, ", and ", c.quote]
  | a :: rest => Text.concat [a.quote, ", ", nameList rest]

/-- A noun with its number. -/
def counted (n : Nat) (noun : Text) : Text :=
  Text.concat [Text.ofNat n, " ", noun, if n = 1 then "" else "s"]

/-- The wording of a fault. -/
def message : OperationFault → Text
  | .operands operator left right => Text.concat
    ["unsupported operand type(s) for ", operator, ": '", left, "' and '", right, "'"]
  | .operand operator kind => Text.concat
    ["bad operand type for unary ", operator, ": '", kind, "'"]
  | .join whole other => Text.concat
    ["can only concatenate ", whole, " (not \"", other, "\") to ", whole]
  | .repetition kind => Text.concat
    ["can't multiply sequence by non-int of type '", kind, "'"]
  | .tooManyRepetitions => "cannot fit 'int' into an index-sized integer"
  | .noMemory => ""
  | .division d => divisionMessage d
  | .hugeInteger => "int too large to convert to float"
  | .hugeQuotient => "integer division result too large for a float"
  | .hugePower => "(34, 'Numerical result out of range')"
  | .longInteger => Text.concat ["Exceeds the limit (4300 digits) for integer string conversion; ",
      "use sys.set_int_max_str_digits() to increase the limit"]
  | .order operator left right => Text.concat
    ["'", operator, "' not supported between instances of '", left, "' and '", right, "'"]
  | .container kind => Text.concat ["argument of type '", kind, "' is not iterable"]
  | .textMember kind => Text.concat
    ["'in <string>' requires string as left operand, not ", kind]
  | .iteration kind => Text.concat ["'", kind, "' object is not iterable"]
  | .length kind => Text.concat ["object of type '", kind, "' has no len()"]
  | .call kind => Text.concat ["'", kind, "' object is not callable"]
  | .loopCall => "The loop must have the 'recursive' marker to be called recursively."
  | .unhashable kind => Text.concat ["unhashable type: '", kind, "'"]
  | .placeholder f => f.message
  | .tooFewValues wanted got => Text.concat
    ["not enough values to unpack (expected ", Text.ofNat wanted, ", got ", Text.ofNat got, ")"]
  | .tooManyValues wanted => Text.concat
    ["too many values to unpack (expected ", Text.ofNat wanted, ")"]
  | .unpacking kind => Text.concat ["cannot unpack non-iterable ", kind, " object"]
  | .tooManyArguments name fewest most given =>
    if fewest = most then Text.concat [name, "() takes ",
      counted most "positional argument", " but ", Text.ofNat given, " were given"]
    else Text.concat [name, "() takes from ", Text.ofNat fewest, " to ",
      counted most "positional argument", " but ", Text.ofNat given, " were given"]
  | .missingArguments name missing => Text.concat [name, "() missing ",
    counted missing.length "required positional argument", ": ", nameList missing]
  | .unknownArgument name argument => Text.concat
    [name, "() got an unexpected keyword argument '", argument, "'"]
  | .repeatedArgument name argument => Text.concat
    [name, "() got multiple values for argument '", argument, "'"]
  | .notInteger kind => Text.concat
    ["'", kind, "' object cannot be interpreted as an integer"]
  | .trimmedBy => "strip arg must be None or str"

end OperationFault

/-- What is wrong with a template when it is expanded. -/
inductive RenderProblem
  | undefined (message : Text)
  | noFilter (name : Text)
  | noTest (name : Text)
  | notNamespace
  | missing (name : Text)
  | noneOf (names : List Text)
  | source (p : SourceProblem)
  | other (message : Text)
deriving DecidableEq, Repr

/-- The wording of a problem. -/
def RenderProblem.message : RenderProblem → Text
  | .undefined message => message
  | .noFilter name => Text.concat ["No filter named ", name.quote, " found."]
  | .noTest name => Text.concat ["No test named ", name.quote, " found."]
  | .notNamespace => "cannot assign attribute on non-namespace object"
  | .missing name => name
  | .noneOf names =>
    if names = [] then "Tried to select from an empty list of templates."
    else Text.concat ["none of the templates given were found: ", Text.join ", " names]
  | .source p => p.message
  | .other message => message

/-- Why a source cannot be used. -/
inductive LoadFault
  | source (f : SourceFault)
  | crash (c : Crash)
deriving DecidableEq, Repr

/-- Why a template does not expand. -/
inductive RenderFault
  | template (p : RenderProblem)
  | operation (f : OperationFault)
  | decoding (f : Utf8.DecodeFault)
  | nesting
  | crash (c : Crash)
deriving DecidableEq, Repr

end ThemeForge.Template
