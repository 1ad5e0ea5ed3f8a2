import LexTree.Event
import LexTree.Text.Digits
import LexTree.Text.Trim

/-!
# Verbosity

How much of the trace log is shown.

- `Verbosity.shows` tells whether events of a level are shown.
- `Verbosity.ofText` reads a verbosity from its name or number; a text that is
  neither means `warn`.
-/

namespace LexTree

/-- The least important level that is shown, if any is. -/
inductive Verbosity where
  | off
  | error
  | warn
  | info
  | debug
  | trace
deriving DecidableEq, Repr, Inhabited

namespace Verbosity

/-- From the least to the most verbose, so that each one's place is its number. -/
def all : List Verbosity := [off, error, warn, info, debug, trace]

def name : Verbosity → String
  | off => "off"
  | error => "error"
  | warn => "warn"
  | info => "info"
  | debug => "debug"
  | trace => "trace"

/-- The least important level that is shown. -/
def least? : Verbosity → Option Level
  | off => none
  | error => some .error
  | warn => some .warn
  | info => some .info
  | debug => some .debug
  | trace => some .trace

/-- Whether events of a level are shown. -/
def shows (v : Verbosity) (level : Level) : Bool :=
  v.least?.any (·.rank ≤ level.rank)

/-- The verbosity with a number, which may have a plus sign. -/
def ofNumber? (text : String) : Option Verbosity :=
  let digits := match text.toList with
    | '+' :: digits => digits
    | digits => digits
  (Text.natOfDigits? 10 digits).bind (all[·]?)

/-- The verbosity with a name, in any case. -/
def ofName? (text : String) : Option Verbosity :=
  all.find? (·.name = text.map Char.toLower)

/-- Reads a verbosity. Blanks around it do not count, and no text at all means `error`. -/
def ofText (text : String) : Verbosity :=
  let text := Text.trim text
  if text.isEmpty then error
  else (ofNumber? text <|> ofName? text).getD warn

end Verbosity

/-- The events that are shown. -/
def Log.visible (log : Log) (v : Verbosity) : Log := log.filter fun e => v.shows e.level

end LexTree
