import ThemeForge.Log.Record

/-!
# The root of logging

All loggers write through the root logger, which is set up once: its handlers are replaced by a
single one and its level is that of the configured word. Later set-ups change nothing.

* `RootLogger.levelOf?`, `RootLogger.LevelFault`: the level of a word, or why there is none;
* `RootLogger`, `RootLogger.setUp?`: the root logger, and setting it up;
* `RootLogger.setLevel`, `RootLogger.write`: what can be done with it;
* `RootLogger.lines`: the lines of what it has written.
-/

namespace ThemeForge

/-- The root logger: its level, the number of its handlers, whether it has been set up, and the
records it has written. -/
structure RootLogger where
  level : Int
  handlers : Nat
  isSetUp : Bool
  written : List LogRecord
deriving Repr

namespace RootLogger

/-- Why a word gives no level: it stands for a text that names none, or for data of another kind. -/
inductive LevelFault
  | unknown (text : Text)
  | notLevel (shown : Text)
deriving DecidableEq, Repr

/-- The report about a level that cannot be set. -/
def LevelFault.message : LevelFault → Text
  | .unknown text => Text.concat ["Unknown level: ", text.quote]
  | .notLevel shown => Text.concat ["Level not an integer or a valid string: ", shown]

/-- The word for the format of records. -/
def formatWord : Text := "BASIC_FORMAT"

/-- The format that `formatWord` stands for. -/
def basicFormat : Text := "%(levelname)s:%(name)s:%(message)s"

/-- The word for the styles of placeholders. -/
def stylesWord : Text := "_STYLES"

/-- The table that `stylesWord` stands for, as it is shown. -/
def stylesTable : Text := Text.concat ["\x7b'%': (<class 'logging.PercentStyle'>, ",
  "'%(levelname)s:%(name)s:%(message)s'), '\x7b': (<class 'logging.StrFormatStyle'>, ",
  "'\x7blevelname\x7d:\x7bname\x7d:\x7bmessage\x7d'), ",
  "'$': (<class 'logging.StringTemplateStyle'>, ",
  "'$\x7blevelname\x7d:$\x7bname\x7d:$\x7bmessage\x7d')\x7d"]

/-- The words that stand for something else than a level. -/
def otherWords : List (Text × LevelFault) :=
  [(formatWord, .unknown basicFormat), (stylesWord, .notLevel stylesTable)]

/-- The level of a configured word in upper case. -/
def levelOf? (word : Text) : Except LevelFault Int :=
  match otherWords.lookup word with
  | some f => .error f
  | none => .ok (LogLevel.ofWord word)

/-- Writes a record if it is visible. -/
def write (r : RootLogger) (record : LogRecord) : RootLogger :=
  if record.isVisible r.level then { r with written := r.written ++ [record] } else r

/-- The lines of the records; one that has no line is passed over. -/
def lines [Json.Writer] (r : RootLogger) : List Value.Mapping :=
  r.written.filterMap fun record => record.line?.toOption

/-- Sets the level. -/
def setLevel (r : RootLogger) (level : Int) : RootLogger := { r with level := level }

/-- The record about the set-up. -/
def setUpRecord (word : Text) : LogRecord :=
  { level := LogLevel.debug, logger := [],
    message := Text.concat ["Root logger configured with JSON stderr handler. Level: ", word] }

/-- Sets the root logger up for a word in upper case, unless that has been done before. -/
def setUp? (r : RootLogger) (word : Text) : Except LevelFault RootLogger := do
  if r.isSetUp then return r
  else
    let level ← levelOf? word
    let ready : RootLogger := { r with level := level, handlers := 1, isSetUp := true }
    return ready.write (setUpRecord word)

end RootLogger

end ThemeForge
