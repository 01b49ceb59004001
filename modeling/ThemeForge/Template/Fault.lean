import ThemeForge.Template.Token

/-!
# Faults of template sources

What can be wrong with the source of a template, and where.

* `SourceProblem`, `SourceProblem.message`: the problems and their wording;
* `SourceFault`: a problem and its line.
-/

namespace ThemeForge.Template

/-- What is wrong with a source. -/
inductive SourceProblem
  | unexpectedCode (c : Code) (position : Nat)
  | unexpectedMark (m : Mark)
  | mismatchedMark (m expected : Mark)
  | badName
  | badEscape (detail : Text)
  | openComment
  | openRaw
  | expected (wanted : Text) (got : TokenKind)
  | expectedExpression (got : TokenKind)
  | unexpectedToken (got : TokenKind)
  | tagNameExpected
  | unknownTag (name : Text) (wanted : List Text) (known : Bool) (innermost : Option Text)
  | unexpectedEnd (wanted : List Text) (innermost : Option Text)
  | notAssignable (what : Text)
  | nameOrNumber
  | badCall
  | chainedTest
  | noFilter (name : Text)
  | noTest (name : Text)
  | loopTarget
  | longInteger (digits : Nat)
  | other (message : Text)
deriving DecidableEq, Repr

/-- A problem on a line of the source. -/
structure SourceFault where
  line : Nat
  problem : SourceProblem
deriving DecidableEq, Repr

namespace SourceProblem

/-- The tags that could close the innermost block. -/
def wantedText (wanted : List Text) : Text := Text.join " or " (wanted.map Text.quote)

/-- The remark about the block that is still open. -/
def innermostText : Option Text → List Text
  | some tag => [Text.concat ["The innermost block that needs to be closed is ", tag.quote, "."]]
  | none => []

/-- The remark about the tags that could come next. -/
def lookingText (wanted : List Text) : List Text :=
  if wanted = [] then []
  else [Text.concat ["Jinja was looking for the following tags: ", wantedText wanted, "."]]

/-- The remark about a tag that closes another block than the innermost. -/
def mistakeText (wanted : List Text) : Text := Text.concat
  ["You probably made a nesting mistake. Jinja is expecting this tag, but currently looking for ",
    wantedText wanted, "."]

/-- The wording of a problem. -/
def message : SourceProblem → Text
  | .unexpectedCode c position =>
    Text.concat ["unexpected char ", Text.quote [c], " at ", Text.ofNat position]
  | .unexpectedMark m => Text.concat ["unexpected '", m.text, "'"]
  | .mismatchedMark m due =>
    Text.concat ["unexpected '", m.text, "', expected '", due.text, "'"]
  | .badName => "Invalid character in identifier"
  | .badEscape detail => detail
  | .openComment => "Missing end of comment tag"
  | .openRaw => "Missing end of raw directive"
  | .expected wanted got =>
    if got = .finish then
      Text.concat ["unexpected end of template, expected ", wanted.quote, "."]
    else Text.concat ["expected token ", wanted.quote, ", got ", got.describe.quote]
  | .expectedExpression got => Text.concat ["Expected an expression, got ", got.describe.quote]
  | .unexpectedToken got => Text.concat ["unexpected ", got.describe.quote]
  | .tagNameExpected => "tag name expected"
  | .unknownTag name wanted known innermost =>
    let remark : List Text :=
      if known && wanted ≠ [] then [mistakeText wanted] else lookingText wanted
    Text.join " " (Text.concat ["Encountered unknown tag ", name.quote, "."] ::
      (remark ++ innermostText innermost))
  | .unexpectedEnd wanted innermost =>
    Text.join " " ("Unexpected end of template." :: (lookingText wanted ++ innermostText innermost))
  | .notAssignable what => Text.concat ["can't assign to ", what.quote]
  | .nameOrNumber => "expected name or number"
  | .badCall => "invalid syntax for function call expression"
  | .chainedTest => "You cannot chain multiple tests with is"
  | .noFilter name => Text.concat ["No filter named ", name.quote, "."]
  | .noTest name => Text.concat ["No test named ", name.quote, "."]
  | .loopTarget => "Can't assign to special loop variable in for-loop target"
  | .longInteger digits =>
    Text.concat ["Exceeds the limit (4300 digits) for integer string conversion: value has ",
      Text.ofNat digits, " digits; use sys.set_int_max_str_digits() to increase the limit"]
  | .other message => message

end SourceProblem

end ThemeForge.Template
