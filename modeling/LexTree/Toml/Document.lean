import LexTree.Toml.Key
import LexTree.Toml.Moment.Reading
import LexTree.Toml.Number
import LexTree.Toml.Section
import LexTree.Toml.Stamp

/-!
# TOML documents

A document is a row of lines: values under keys, and the headers of the tables
that the values after them belong to.

- `parse` reads a document as a table.
-/

namespace LexTree.Toml

/-! ## Values -/

/-- Reads a value that is neither a list nor a table. -/
def scalar : Reading Value
  | '"' :: rest => (quoted ('"' :: rest)).map fun (s, rest) => (.text s, rest)
  | '\'' :: rest => (quoted ('\'' :: rest)).map fun (s, rest) => (.text s, rest)
  | 't' :: 'r' :: 'u' :: 'e' :: rest => some (.boolean true, rest)
  | 'f' :: 'a' :: 'l' :: 's' :: 'e' :: rest => some (.boolean false, rest)
  | text =>
    if startsMoment text then (moment text).map fun (m, rest) => (.moment m, rest)
    else number text

/-- Reads the items of a list up to its end, after `items`. A comma may stand after the
last one. -/
def listItems (item : Reading Value) : Nat → List Value → Reading (List Value)
  | 0, _, _ => none
  | fuel + 1, items, text =>
    match skipSpacing text with
    | ']' :: rest => some (items, rest)
    | text => do
      let (v, rest) ← item text
      let items := items ++ [v]
      match skipSpacing rest with
      | ',' :: rest => listItems item fuel items rest
      | ']' :: rest => some (items, rest)
      | _ => none

/-- Reads a key, the sign after it and its value. -/
def entry (item : Reading Value) : Reading Section.Entry := fun text => do
  let (k, rest) ← key text
  let rest ← after? '=' rest
  let (v, rest) ← item (skipBlanks rest)
  return (⟨k.path, k.last, v⟩, rest)

/-- Reads the entries of an inline table up to its end, after `entries`. -/
def inlineEntries (item : Reading Value) : Nat → List Section.Entry → Reading (List Section.Entry)
  | 0, _, _ => none
  | fuel + 1, entries, text => do
    let (e, rest) ← entry item text
    let entries := entries ++ [e]
    match skipBlanks rest with
    | ',' :: rest => inlineEntries item fuel entries rest
    | '\x7d' :: rest => some (entries, rest)
    | _ => none

/-- Reads an inline table after its brace. -/
def inlineTable (item : Reading Value) : Reading Value := fun text => do
  let (entries, rest) ←
    match skipBlanks text with
    | '\x7d' :: rest => some ([], rest)
    | rest => inlineEntries item rest.length [] rest
  let table ← (Section.empty .header).insertAll entries
  return (table.toValue, rest)

/-- How deep lists and inline tables may be nested. -/
def maxNesting : Nat := 79

/-- Reads a value in which lists and tables are nested at most so deep. -/
def value : Nat → Reading Value
  | 0, text => scalar text
  | room + 1, text =>
    match text with
    | '[' :: rest =>
      (listItems (value room) (rest.length + 1) [] rest).map fun (items, rest) =>
        (.list items, rest)
    | '\x7b' :: rest => inlineTable (value room) rest
    | text => scalar text

/-! ## Lines -/

/-- Reads a whole line with an entry. -/
def entryLine : Reading Section.Entry := fun text => do
  let (e, rest) ← entry (value maxNesting) text
  return (e, ← lineEnd? rest)

/-- Reads the lines up to the next header, after `entries`. -/
def body : Nat → List Section.Entry → Reading (List Section.Entry)
  | 0, _, _ => none
  | fuel + 1, entries, text =>
    let text := skipSpacing text
    if lineEnd? text = some [] then some (entries, [])
    else
      match text with
      | '[' :: rest => some (entries, '[' :: rest)
      | text => do
        let (e, rest) ← entryLine text
        body fuel (entries ++ [e]) rest

/-- The line that opens a table. -/
structure Header where
  /-- Whether it opens an element of an array of tables. -/
  element : Bool
  key : Key

/-- Reads a whole line with a header. -/
def headerLine : Reading Header
  | '[' :: '[' :: rest => do
    let (k, rest) ← key rest
    let rest ← after? ']' rest
    let rest ← after? ']' rest
    return (⟨true, k⟩, ← lineEnd? rest)
  | '[' :: rest => do
    let (k, rest) ← key rest
    let rest ← after? ']' rest
    return (⟨false, k⟩, ← lineEnd? rest)
  | _ => none

/-- Reads headers with the lines after them, and adds their tables to the root. -/
def tables : Nat → Section → List Char → Option Section
  | _, root, [] => some root
  | 0, _, _ :: _ => none
  | fuel + 1, root, text => do
    let (header, rest) ← headerLine text
    let (entries, rest) ← body (rest.length + 1) [] rest
    let root ←
      if header.element then root.append header.key.path header.key.last entries
      else root.define header.key.path header.key.last entries
    tables fuel root rest

/-- Reads a document, which is a table that stands for itself. A byte order mark before it
does not count. -/
def parse (text : String) : Option Value := do
  let text := match text.toList with
    | '\uFEFF' :: rest => rest
    | runes => runes
  let (entries, rest) ← body (text.length + 1) [] text
  let root ← (Section.empty .header).insertAll entries
  let root ← tables (rest.length + 1) root rest
  match ← root.toValue.stamped? with
  | .table entries => return .table entries
  | _ => none

end LexTree.Toml
