import LexTree.Format.Document
import LexTree.Format.Yaml.Scalar

/-!
# YAML

- `Yaml.render` writes a document in block style. The items of a list that is
  a field's value are not indented under it.
-/

namespace LexTree.Format.Yaml

/-- Ends a line, unless it has just ended. -/
def endLine (out : String) (ended : Bool) : String := if ended then out else out.push '\n'

mutual
/-- Writes a value after a field's name or a list's hyphen and a blank. A
collection begins on the same line when `sameLine`; `indent` is the column of
its fields, and the one that lists under a field keep. -/
def addValue (indent : Nat) (out : String) : Document → String
  | .text value =>
    let (text, ended) := writeScalar (indent + 2) value
    endLine (out ++ " " ++ text) ended
  | .number value => (out ++ " " ++ toString value).push '\n'
  | .list [] => out ++ " []\n"
  | .list items => addItems indent (out.push '\n') false items
  | .record [] => out ++ " \x7b\x7d\n"
  | .record fields => addFields (indent + 2) (out.push '\n') false fields

/-- Writes an item after its hyphen at a column. -/
def addItem (indent : Nat) (out : String) : Document → String
  | .text value =>
    let (text, ended) := writeScalar (indent + 2) value
    endLine (out ++ " " ++ text) ended
  | .number value => (out ++ " " ++ toString value).push '\n'
  | .list [] => out ++ " []\n"
  | .list items => addItems (indent + 2) (out.push ' ') true items
  | .record [] => out ++ " \x7b\x7d\n"
  | .record fields => addFields (indent + 2) (out.push ' ') true fields

/-- Writes the items of a list at a column. -/
def addItems (indent : Nat) (out : String) (sameLine : Bool) : List Document → String
  | [] => out
  | item :: items =>
    let out := if sameLine then out else out.pushn ' ' indent
    addItems indent (addItem indent (out.push '-') item) false items

/-- Writes the fields of a record at a column. -/
def addFields (indent : Nat) (out : String) (sameLine : Bool) : List (String × Document) → String
  | [] => out
  | (name, value) :: fields =>
    let out := if sameLine then out else out.pushn ' ' indent
    addFields indent (addValue indent (out ++ name ++ ":") value) false fields
end

/-- A whole document, with a line break at its end. -/
def render : Document → String
  | .text value =>
    let (text, ended) := writeScalar 0 value
    endLine text ended
  | .number value => (toString value).push '\n'
  | .list [] => "[]\n"
  | .list items => addItems 0 "" false items
  | .record [] => "\x7b\x7d\n"
  | .record fields => addFields 0 "" false fields

end LexTree.Format.Yaml
