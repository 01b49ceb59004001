import ThemeForge.Json.Carried
import ThemeForge.Value.Placeholder

/-!
# Log records

A record is visible if its level is positive and not below the level that is set. It is written as
a line of JSON with named fields: those that every line has, and after them what is attached to the
record. Nothing can be attached under the name of an attribute that records have themselves, so what
a caller adds is nested under a name of its own. The time that a line also bears is left out, and so
are the traces of failures, which nothing here attaches.

* `LogLevel.name`, `LogLevel.ofWord`: the names of levels;
* `LogRecord`, `LogRecord.isVisible`: records and their visibility;
* `LogRecord.format?`, `LogRecord.ofCall?`: a message filled from arguments, and the record of it;
* `LogRecord.attach?`, `LogRecord.line?`: fields that are attached, and the line for a record.
-/

namespace ThemeForge

namespace LogLevel

/-- The level of details for developers. -/
def debug : Int := 10

/-- The level of ordinary messages. -/
def info : Int := 20

/-- The level of warnings. -/
def warning : Int := 30

/-- The level of errors. -/
def error : Int := 40

/-- The level of errors that end the program. -/
def critical : Int := 50

/-- The name of a level; levels without a name of their own are shown by number. -/
def name (level : Int) : Text :=
  if level = critical then "CRITICAL"
  else if level = error then "ERROR"
  else if level = warning then "WARNING"
  else if level = info then "INFO"
  else if level = debug then "DEBUG"
  else if level = 0 then "NOTSET"
  else "Level " ++ Text.ofInt level

/-- The words for levels, in upper case. -/
def words : List (Text × Int) :=
  [("DEBUG", debug), ("INFO", info), ("WARN", warning), ("WARNING", warning), ("ERROR", error),
    ("CRITICAL", critical), ("FATAL", critical), ("NOTSET", 0)]

/-- The level of a word in upper case; words that mean no level stand for ordinary messages. -/
def ofWord (w : Text) : Int := (words.lookup w).getD info

end LogLevel

/-- A log record: its level, the logger it goes through, its message, and further data. A message
may also be given as fields of its own. -/
structure LogRecord where
  level : Int
  logger : Text
  message : Text
  extra : Option Value := none
  own : Value.Mapping := []
deriving Repr

namespace LogRecord

/-- Whether a record is shown when a level is set. -/
def isVisible (threshold : Int) (r : LogRecord) : Bool := 0 < r.level && threshold ≤ r.level

/-- The name of the root logger. -/
def rootName : Text := "root"

/-- The logger's name as records show it: the logger without a name is the root. -/
def loggerName (r : LogRecord) : Text := if r.logger = [] then rootName else r.logger

/-- What the placeholders of a message are filled from: a single mapping by itself, otherwise all
arguments. -/
def fillers : List Value → Value
  | [.mapping (e :: m)] => .mapping (e :: m)
  | arguments => .tuple arguments

/-- A message filled from arguments; without arguments it is taken as it is. -/
def format? (message : Text) (arguments : List Value) : Except Placeholder.Fault Text :=
  if arguments.isEmpty then .ok message else Placeholder.fill? message (fillers arguments)

/-- The record of a call. There is none for a level that is too long to be named, or a message that
cannot be written or filled; a mapping as a message gives fields. -/
def ofCall? (level : Int) (logger : Text) (message : Value) (arguments : List Value)
    (extra : Option Value) : Option LogRecord :=
  if !(Value.int level).isWritable then none
  else
    match message with
    | .mapping m => some { level, logger, message := [], extra, own := m }
    | v =>
      if v.isWritable then
        (format? v.plain arguments).toOption.map fun t => { level, logger, message := t, extra }
      else none

/-! ## Lines -/

/-- The attributes that records have themselves. -/
def attributes : List Text :=
  ["name", "msg", "args", "levelname", "levelno", "pathname", "filename", "module", "exc_info",
    "exc_text", "stack_info", "lineno", "funcName", "created", "msecs", "relativeCreated", "thread",
    "threadName", "processName", "process", "taskName", "message", "asctime"]

/-- Whether records have an attribute of that name themselves. -/
def isAttribute : Value → Bool
  | .text t => attributes.contains t
  | _ => false

/-- Whether fields of that name are left out: an underscore marks a name as internal. -/
def isInternal : Value → Bool
  | .text t => t.startsWith "_"
  | _ => false

/-- Fields with more of them attached; the error is a name that is taken. -/
def attach? (fields : Value.Mapping) : Value.Mapping → Except Value Value.Mapping
  | [] => .ok fields
  | (key, v) :: rest =>
    if isAttribute key then .error key
    else if isInternal key then attach? fields rest
    else attach? (Value.Mapping.put key v fields) rest

/-- The fields that every line has, and those of the message. -/
def fields (r : LogRecord) : Value.Mapping :=
  r.own.foldl (fun m e => Value.Mapping.put e.1 e.2 m)
    [(.text "name", .text r.loggerName), (.text "levelname", .text (LogLevel.name r.level)),
      (.text "message", .text r.message)]

/-- The name under which what a caller adds is nested. -/
def extraKey : Text := "extra_data"

/-- What a caller adds, ready to be attached. -/
def nested : Option Value → Value.Mapping
  | some v => [(.text extraKey, v)]
  | none => []

/-- Why there is no line for a record: a name is taken, or there is something that JSON cannot
carry. -/
inductive LineFault
  | taken (name : Value)
  | notCarried
deriving Repr

/-- The line for a record, as it is read. -/
def line? [Json.Writer] (r : LogRecord) : Except LineFault Value.Mapping := do
  let fields ← (attach? r.fields (nested r.extra)).mapError .taken
  match Json.written? fields with
  | some line => return line
  | none => throw .notCarried

end LogRecord

end ThemeForge
