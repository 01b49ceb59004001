import ThemeForge.Value.Printer

/-!
# The families of failures

Failures form a small hierarchy. Each family can be handled as any of the wider families above it,
and a failure made from arbitrary arguments has a text that depends on its family: one argument
speaks for itself, several are shown together, and file failures put their number in front.

* `Failure.Family`, `Failure.Family.kinds`: the families, and under what they can be handled;
* `Failure.Family.report?`: the text of a failure made from arguments.
-/

namespace ThemeForge.Failure

/-- A family of failures. -/
inductive Family
  | any
  | configuration
  | validation
  | template
  | templateNotFound
  | templateRender
  | fileExists
  | fileWrite
deriving DecidableEq, Repr

/-- What a failure can be handled as. -/
inductive Kind
  | any
  | template
  | badValue
  | missingKey
  | existingFile
  | system
deriving DecidableEq, Repr

namespace Family

/-- What the failures of a family can be handled as, the widest first. -/
def kinds : Family → List Kind
  | .any => [.any]
  | .configuration => [.any]
  | .validation => [.any, .badValue]
  | .template => [.any, .template]
  | .templateNotFound => [.any, .template, .missingKey]
  | .templateRender => [.any, .template]
  | .fileExists => [.any, .existingFile, .system]
  | .fileWrite => [.any, .system]

/-- The text of a failure; validation failures also carry the result they report. -/
structure Report where
  text : Text
  result : Option Value
deriving Repr

/-- Arguments shown together: none, one by itself, several in parentheses. -/
def shown : List Value → Text
  | [] => []
  | [v] => v.plain
  | vs => (Value.tuple vs).quoted

/-- A number and a text, followed by the quoted names of the files concerned. -/
def systemText (number text : Value) (files : List Value) : Text :=
  let head := Text.concat ["[Errno ", number.plain, "] ", text.plain]
  match files with
  | [] => head
  | fs => Text.concat [head, ": ", Text.join " -> " (fs.map Value.quoted)]

/-- The text of a file failure. A file name of null counts as absent. -/
def systemReport : List Value → Text
  | [number, text] => systemText number text []
  | [number, text, .null] => systemText number text []
  | [number, text, file] => systemText number text [file]
  | [number, text, .null, _] => systemText number text []
  | [number, text, file, _] => systemText number text [file]
  | [number, text, .null, _, _] => systemText number text []
  | [number, text, file, _, .null] => systemText number text [file]
  | [number, text, file, _, other] => systemText number text [file, other]
  | vs => shown vs

/-- Why no failure can be made from the arguments. -/
inductive ArgumentFault
  | missing
  | tooMany (given : Nat)
deriving DecidableEq, Repr

/-- The wording of an argument fault. -/
def ArgumentFault.message : ArgumentFault → Text
  | .missing =>
    "ThemeValidationError.__init__() missing 1 required positional argument: 'message'"
  | .tooMany given => Text.concat
    ["ThemeValidationError.__init__() takes from 2 to 3 positional arguments but ",
      Text.ofNat (given + 1), " were given"]

/-- The report of a failure of a family, made from arguments. -/
def report? (family : Family) (arguments : List Value) : Except ArgumentFault Report :=
  match family with
  | .validation =>
    match arguments with
    | [] => .error .missing
    | [m] => .ok ⟨m.plain, some .null⟩
    | [m, r] => .ok ⟨m.plain, some r⟩
    | vs => .error (.tooMany vs.length)
  | .templateNotFound => .ok ⟨match arguments with
    | [] => []
    | v :: _ => v.plain, none⟩
  | .fileExists | .fileWrite => .ok ⟨systemReport arguments, none⟩
  | _ => .ok ⟨shown arguments, none⟩

end Family

end ThemeForge.Failure
