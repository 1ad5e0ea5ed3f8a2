import LexTree.Format.Document
import LexTree.Text.Hex

/-!
# JSON

- `Json.pretty` writes a document over several lines, two spaces of indentation
  for each level.
- `Json.compact` writes it on one line.
- `Json.quote` is a text as JSON has it: only the quote, the backslash and the
  controls below U+0020 are escaped.
-/

namespace LexTree.Format.Json

/-- What stands for a rune inside quotes. -/
def escape (rune : Char) : String :=
  match rune with
  | '"' => "\\\""
  | '\\' => "\\\\"
  | '\x08' => "\\b"
  | '\x0C' => "\\f"
  | '\n' => "\\n"
  | '\r' => "\\r"
  | '\t' => "\\t"
  | rune => if rune.toNat < 0x20 then "\\u" ++ Text.hexPadded 'a' 4 rune.toNat else rune.toString

/-- A text in quotes. -/
def quote (text : String) : String :=
  (text.foldl (fun out rune => out ++ escape rune) "\"").push '"'

/-! ## On one line -/

mutual
/-- Writes a document after `out`. -/
def addCompact (out : String) : Document → String
  | .text value => out ++ quote value
  | .number value => out ++ toString value
  | .list items => (addItems (out.push '[') true items).push ']'
  | .record fields => (addFields (out ++ "\x7b") true fields) ++ "\x7d"

def addItems (out : String) (first : Bool) : List Document → String
  | [] => out
  | item :: items => addItems (addCompact (if first then out else out.push ',') item) false items

def addFields (out : String) (first : Bool) : List (String × Document) → String
  | [] => out
  | (name, value) :: fields =>
    let out := if first then out else out.push ','
    addFields (addCompact (out ++ quote name ++ ":") value) false fields
end

/-- A document on one line, without blanks. -/
def compact (d : Document) : String := addCompact "" d

/-! ## On several lines -/

/-- The start of a line at some level, after a comma unless it is the first. -/
def newLine (out : String) (first : Bool) (level : Nat) : String :=
  ((if first then out else out.push ',').push '\n').pushn ' ' (2 * level)

mutual
/-- Writes a document at some level after `out`. -/
def addPretty (level : Nat) (out : String) : Document → String
  | .text value => out ++ quote value
  | .number value => out ++ toString value
  | .list [] => out ++ "[]"
  | .list items =>
    (newLine (addPrettyItems (level + 1) (out.push '[') true items) true level).push ']'
  | .record [] => out ++ "\x7b\x7d"
  | .record fields =>
    newLine (addPrettyFields (level + 1) (out ++ "\x7b") true fields) true level ++ "\x7d"

def addPrettyItems (level : Nat) (out : String) (first : Bool) : List Document → String
  | [] => out
  | item :: items =>
    addPrettyItems level (addPretty level (newLine out first level) item) false items

def addPrettyFields (level : Nat) (out : String) (first : Bool) :
    List (String × Document) → String
  | [] => out
  | (name, value) :: fields =>
    let out := newLine out first level ++ quote name ++ ": "
    addPrettyFields level (addPretty level out value) false fields
end

/-- A document over several lines, without a line break at the end. -/
def pretty (d : Document) : String := addPretty 0 "" d

end LexTree.Format.Json
