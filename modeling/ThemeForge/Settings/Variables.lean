import ThemeForge.Text.Blank
import ThemeForge.Text.Case

/-!
# Variables

Settings can be overridden by environment variables and by a file of assignments, one on a line.

* `Variables`: names and their values, in order of first assignment;
* `Variables.ofBlock`: the variables in the form in which a system hands them over;
* `Assignments.read`: the assignments of a file. A value may be quoted; a line that is malformed
  is passed over, and a name without equals sign has no value;
* `Assignments.resolve`: the values with the variables they refer to filled in.
-/

namespace ThemeForge

/-- Names and their values. -/
abbrev Variables := List (Text × Text)

namespace Variables

/-- Sets a variable; one that is set already keeps its place. -/
def set (name value : Text) : Variables → Variables
  | [] => [(name, value)]
  | e :: rest => if e.1 = name then (name, value) :: rest else e :: set name value rest

/-- Removes a variable. -/
def unset (name : Text) (vs : Variables) : Variables := vs.filter fun e => e.1 != name

/-- The variables of a block, in which every name is followed by an equals sign and its value, and
a zero ends each value. -/
def ofBlock (t : Text) : Variables :=
  (t.splitOn (Code.ofNat 0)).filterMap fun e =>
    if e.contains '=' then some (e.before '=', (e.dropWhile (· != Code.ofChar '=')).drop 1)
    else none

end Variables

/-- An assignment as written: a name and, after an equals sign, its value. -/
structure Assignment where
  name : Text
  value : Option Text
deriving DecidableEq, Repr

namespace Assignments

/-- A blank that does not end a line. -/
def isGap (c : Code) : Bool := c.isBlank && c != '\n'

/-- A code point of an unquoted name. -/
def isNameCode (c : Code) : Bool := !c.isBlank && c != '=' && c != '#'

/-- A code point before the end of the line. -/
def isInLine (c : Code) : Bool := c != '\n'

/-- The length of a text in quotes up to the closing quote `q`, after the opening one. A quote
after a backslash closes the text only if no other quote does. -/
def quotedLength? (q : Code) : Text → Option Nat
  | [] => none
  | [c] => if c = q then some 0 else none
  | c :: d :: rest =>
    if c = q then some 0
    else if c = '\\' ∧ d = q then
      match quotedLength? q rest with
      | some n => some (n + 2)
      | none => some 1
    else (quotedLength? q (d :: rest)).map (· + 1)

/-- The code point of an escape inside double quotes. -/
def doubleEscape? (c : Code) : Option Code :=
  if c = '\\' ∨ c = '\'' ∨ c = '"' then some c
  else if c = 'a' then some '\x07' else if c = 'b' then some '\x08' else if c = 'f' then some '\x0c'
  else if c = 'n' then some '\n' else if c = 'r' then some '\r' else if c = 't' then some '\t'
  else if c = 'v' then some '\x0b' else none

/-- The code point of an escape inside single quotes. -/
def singleEscape? (c : Code) : Option Code := if c = '\\' ∨ c = '\'' then some c else none

/-- Resolves escapes; unknown ones stand for themselves. -/
def unescape (escape? : Code → Option Code) : Text → Text
  | c :: d :: rest =>
    match (if c = '\\' then escape? d else none) with
    | some e => e :: unescape escape? rest
    | none => c :: unescape escape? (d :: rest)
  | t => t

/-- Cuts a comment: a number sign with blanks in front, and all that follows on its line. -/
def cutComment (t : Text) : Text :=
  match t with
  | [] => []
  | c :: rest =>
    if c.isBlank && (rest.dropWhile Code.isBlank).head? == some (Code.ofChar '#') then []
    else c :: cutComment rest

/-- A value at the start of a text and what follows it; a quote that is not closed is refused. -/
def value? : Text → Option (Text × Text)
  | [] => some ([], [])
  | c :: rest =>
    if c = '\'' ∨ c = '"' then
      (quotedLength? c rest).map fun n =>
        let escape? := if c = '"' then doubleEscape? else singleEscape?
        (unescape escape? (rest.take n), rest.drop (n + 1))
    else
      let (line, after) := (c :: rest).span isInLine
      some ((cutComment line).trimEnd, after)

/-- What follows the end of a line, before which only blanks and a comment may stand. -/
def lineEnd? (t : Text) : Option Text :=
  let t := t.dropWhile isGap
  let t := if t.head? = some (Code.ofChar '#') then t.dropWhile isInLine else t
  match t with
  | [] => some []
  | c :: rest => if c = '\n' then some rest else none

/-- What follows the rest of a line. -/
def skipLine (t : Text) : Text := (t.dropWhile isInLine).drop 1

/-- The word that may stand in front of a name. -/
def dropExport (t : Text) : Text :=
  match Text.after? "export" t with
  | some rest => if rest.head?.any isGap then rest.dropWhile isGap else t
  | none => t

/-- A name at the start of a text and what follows it. -/
def name? : Text → Option (Text × Text)
  | [] => none
  | c :: rest =>
    if c = '\'' then
      let (n, after) := rest.span fun d => d != Code.ofChar '\''
      if n = [] ∨ after = [] then none else some (n, after.drop 1)
    else
      let (n, after) := (c :: rest).span isNameCode
      if n = [] then none else some (n, after)

/-- The line at the start of a text, if it is an assignment, and what follows it. -/
def line (t : Text) : Option Assignment × Text :=
  let t := dropExport t
  if t.head? = some (Code.ofChar '#') then (none, skipLine t)
  else
    match name? t with
    | none => (none, skipLine t)
    | some (n, after) =>
      let after := after.dropWhile isGap
      let valued : Option (Option Text × Text) :=
        if after.head? = some (Code.ofChar '=') then
          (value? ((after.drop 1).dropWhile isGap)).map fun (v, rest) => (some v, rest)
        else some (none, after)
      match valued with
      | none => (none, skipLine (after.drop 1))
      | some (v, rest) =>
        match lineEnd? rest with
        | some rest => (some ⟨n, v⟩, rest)
        | none => (none, skipLine rest)

/-- The assignments of a text; the fuel bounds the number of lines. -/
def readFrom : Nat → Text → List Assignment
  | 0, _ => []
  | fuel + 1, t =>
    let t := t.dropWhile Code.isBlank
    if t = [] then []
    else
      match line t with
      | (some a, rest) => a :: readFrom fuel rest
      | (none, rest) => readFrom fuel rest

/-- The assignments of a text. -/
def read (t : Text) : List Assignment := readFrom (t.length + 1) t

/-- Puts an assignment into a list in which each name stands once, at its first place. -/
def put (a : Assignment) : List Assignment → List Assignment
  | [] => [a]
  | b :: rest => if b.name = a.name then a :: rest else b :: put a rest

/-! ## References -/

/-- The name of a variable and its default after an opening brace, and what follows the closing
one. -/
def reference? (t : Text) : Option (Text × Option Text × Text) :=
  let (n, rest) := t.span fun c => c != Code.ofChar '\x7d' && c != Code.ofChar ':'
  match rest with
  | [] => none
  | c :: after =>
    if c = '\x7d' then some (n, none, after)
    else
      match after with
      | d :: inner =>
        if d = '-' then
          let (fallback, rest) := inner.span fun c => c != Code.ofChar '\x7d'
          if rest = [] then none else some (n, some fallback, rest.drop 1)
        else none
      | [] => none

/-- What a reference stands for: the value of the variable, nothing if it has no value, and the
default only if it is not set at all. -/
def resolveReference (known : List (Text × Option Text)) (n : Text) (fallback : Option Text) :
    Text :=
  match known.lookup n with
  | some v => v.getD []
  | none => fallback.getD []

/-- Fills in the references of a text; the fuel bounds their number. -/
def substituteFrom (known : List (Text × Option Text)) : Nat → Text → Text
  | 0, t => t
  | _, [] => []
  | fuel + 1, c :: rest =>
    match Text.after? "$\x7b" (c :: rest) with
    | some inner =>
      match reference? inner with
      | some (n, fallback, after) =>
        resolveReference known n fallback ++ substituteFrom known fuel after
      | none => c :: substituteFrom known fuel rest
    | none => c :: substituteFrom known fuel rest

/-- Fills in the references of a text. -/
def substitute (known : List (Text × Option Text)) (t : Text) : Text :=
  substituteFrom known (t.length + 1) t

/-- The values of assignments. References are to assignments above, then to the environment. -/
def resolve (environment : Variables) (as : List Assignment) : List Assignment :=
  let outside := environment.map fun e => (e.1, some e.2)
  as.foldl (fun done a =>
    let known := (done.map fun b => (b.name, b.value)) ++ outside
    put { a with value := a.value.map (substitute known) } done) []

end Assignments

/-- The overrides of settings. -/
structure Overrides where
  level : Option Text
  directory : Option Text
deriving DecidableEq, Repr

namespace Overrides

/-- The variable for the level of logging, in lower case. -/
def levelName : Text := "themekit_log_level"

/-- The variable for the directory of templates, in lower case. -/
def directoryName : Text := "themekit_templates_dir"

/-- The last value of a name, whatever its case. -/
def lastOf (n : Text) (vs : List (Text × Option Text)) : Option Text :=
  ((vs.reverse.find? fun e => Text.lower e.1 = n).map Prod.snd).join

/-- The overrides of an environment and of assignments; the environment goes first, even with an
empty value. -/
def of (environment : Variables) (as : List Assignment) : Overrides :=
  let outside := environment.map fun e => (e.1, some e.2)
  let inside := (Assignments.resolve environment as).map fun a => (a.name, a.value)
  let pick (n : Text) : Option Text := (lastOf n outside).or (lastOf n inside)
  ⟨pick levelName, pick directoryName⟩

end Overrides

end ThemeForge
