import ThemeForge.Number.Double
import ThemeForge.Text.Quoted

/-!
# Tokens of templates

A template is text in which `\x7b\x7b … \x7d\x7d` prints an expression and `\x7b% … %\x7d` is a
statement; comments and raw parts leave no token of their own.

* `Mark`: the operators and brackets of expressions;
* `TokenKind`, `Token`: tokens with the line they start on, and how messages name them.
-/

namespace ThemeForge.Template

/-- An operator or bracket. -/
inductive Mark
  | plus | minus | slash | doubleSlash | star | percent | doubleStar | tilde
  | openBracket | closeBracket | openParen | closeParen | openBrace | closeBrace
  | equal | notEqual | greater | greaterEqual | less | lessEqual
  | assign | dot | colon | pipe | comma | semicolon
deriving DecidableEq, Repr

namespace Mark

/-- The written form of a mark. -/
def text : Mark → Text
  | .plus => "+" | .minus => "-" | .slash => "/" | .doubleSlash => "//" | .star => "*"
  | .percent => "%" | .doubleStar => "**" | .tilde => "~"
  | .openBracket => "[" | .closeBracket => "]" | .openParen => "(" | .closeParen => ")"
  | .openBrace => "\x7b" | .closeBrace => "\x7d"
  | .equal => "==" | .notEqual => "!=" | .greater => ">" | .greaterEqual => ">="
  | .less => "<" | .lessEqual => "<="
  | .assign => "=" | .dot => "." | .colon => ":" | .pipe => "|" | .comma => ","
  | .semicolon => ";"

/-- All marks, longer ones first. -/
def all : List Mark :=
  [.doubleSlash, .doubleStar, .equal, .notEqual, .greaterEqual, .lessEqual, .plus, .minus, .slash,
    .star, .percent, .tilde, .openBracket, .closeBracket, .openParen, .closeParen, .openBrace,
    .closeBrace, .greater, .less, .assign, .dot, .colon, .pipe, .comma, .semicolon]

/-- The mark at the start of a text. -/
def read? (t : Text) : Option Mark := all.find? fun m => t.startsWith m.text

/-- The bracket that closes an opening one. -/
def closing? : Mark → Option Mark
  | .openBracket => some .closeBracket
  | .openParen => some .closeParen
  | .openBrace => some .closeBrace
  | _ => none

/-- Whether a mark is a closing bracket. -/
def isClosing : Mark → Bool
  | .closeBracket | .closeParen | .closeBrace => true
  | _ => false

end Mark

/-- What a token is. -/
inductive TokenKind
  | data (t : Text)
  | printStart
  | printEnd
  | blockStart
  | blockEnd
  | name (t : Text)
  | string (t : Text)
  | integer (n : Nat)
  | float (d : Double)
  | mark (m : Mark)
  | finish
deriving DecidableEq, Repr

/-- A token and the line it starts on. -/
structure Token where
  line : Nat
  kind : TokenKind
deriving DecidableEq, Repr

/-- How messages name a token. -/
def TokenKind.describe : TokenKind → Text
  | .data _ => "template data / text"
  | .printStart => "begin of print statement"
  | .printEnd => "end of print statement"
  | .blockStart => "begin of statement block"
  | .blockEnd => "end of statement block"
  | .name t => t
  | .string _ => "string"
  | .integer _ => "integer"
  | .float _ => "float"
  | .mark m => m.text
  | .finish => "end of template"

end ThemeForge.Template
