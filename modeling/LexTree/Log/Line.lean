import LexTree.Format.Json
import LexTree.Log.Verbosity
import LexTree.Text.Quoted

/-!
# Log lines

An event is logged as one record: a compact line, which may be colored for a
terminal, a block set off by an empty line, or a JSON object.

- `Event.record` is the text of one event, `Log.records` that of all events.
-/

namespace LexTree

/-- How events are written down. -/
inductive LogFormat where
  | compact
  | pretty
  | json
deriving DecidableEq, Repr, Inhabited

namespace LogFormat

def all : List LogFormat := [compact, pretty, json]

def name : LogFormat → String
  | compact => "compact"
  | pretty => "pretty"
  | json => "json"

end LogFormat

/-- The value as compact lines show it. -/
def FieldValue.display : FieldValue → String
  | number n => toString n
  | text s => s
  | quoted s => Text.quote s

/-- The value as JSON shows it. Quoted text keeps its quotes. -/
def FieldValue.document : FieldValue → Document
  | number n => .number n
  | text s => .text s
  | quoted s => .text (Text.quote s)

/-- The name of a level with blanks before it, up to five runes. -/
def Level.padded (l : Level) : String := "".pushn ' ' (5 - l.name.length) ++ l.name

/-- The terminal's color for a level. -/
def Level.colorCode : Level → Nat
  | .trace => 35
  | .debug => 34
  | .info => 32
  | .warn => 33
  | .error => 31

/-- A text between a terminal style and the code that ends it. -/
def styled (code : Nat) (text : String) : String :=
  "\x1b[" ++ toString code ++ "m" ++ text ++ "\x1b[0m"

namespace Event

/-- The event on a line of plain text. -/
def plainLine (e : Event) (time : String) : String :=
  let fields := e.fields.foldl
    (fun out (name, value) => out ++ " " ++ name ++ "=" ++ value.display) ""
  time ++ " " ++ e.level.padded ++ " " ++ e.target ++ ": " ++ e.message ++ fields ++ "\n"

/-- The event on a line for a terminal: what surrounds the message is dimmed,
and the level has its color. -/
def coloredLine (e : Event) (time : String) : String :=
  let dim := styled 2
  let fields := e.fields.foldl
    (fun out (name, value) => out ++ " " ++ styled 3 name ++ dim "=" ++ value.display) ""
  dim time ++ " " ++ styled e.level.colorCode e.level.padded ++ " " ++ dim e.target ++ dim ":" ++
    " " ++ e.message ++ fields ++ "\n"

/-- The event on an indented line, with an empty line after it. -/
def block (e : Event) (time : String) : String :=
  let fields := e.fields.foldl
    (fun out (name, value) => out ++ ", " ++ name ++ ": " ++ value.display) ""
  "  " ++ time ++ " " ++ e.level.padded ++ " " ++ e.target ++ ": " ++ e.message ++ fields ++ "\n\n"

/-- The event as an object. -/
def document (e : Event) (time : String) : Document :=
  .record [("timestamp", .text time), ("level", .text e.level.name),
    ("fields", .record (("message", .text e.message) ::
      e.fields.map fun (name, value) => (name, value.document))),
    ("target", .text e.target)]

/-- What is logged of an event at some time. -/
def record (e : Event) (format : LogFormat) (colored : Bool) (time : String) : String :=
  match format with
  | .compact => if colored then e.coloredLine time else e.plainLine time
  | .pretty => e.block time
  | .json => Format.Json.compact (e.document time) ++ "\n"

end Event

/-- What is logged of some events, all at one time. -/
def Log.records (log : Log) (format : LogFormat) (colored : Bool) (time : String) : String :=
  log.foldl (fun out e => out ++ e.record format colored time) ""

end LexTree
