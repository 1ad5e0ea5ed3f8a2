import LexTree.Number.Shortest
import LexTree.Toml.Value
import LexTree.Unicode.Lowercase

/-!
# Layered values

Settings are gathered in one table, to which layer after layer is added. Keys are
the same in any case.

- `Value.assign` adds what a layer has under a key: tables are merged key by key,
  anything else replaces what was there.
- `Value.ofToml` is what a document says.
-/

namespace LexTree.Settings

inductive Value where
  | nothing
  | boolean (b : Bool)
  | integer (i : Int)
  | float (x : Binary64)
  | text (s : String)
  /-- A list, and the name of the file that it comes from. -/
  | list (origin : Option String) (items : List Value)
  /-- A table, and the name of the file that it comes from as a whole. -/
  | table (origin : Option String) (entries : List (String × Value))
deriving Repr, Inhabited

/-- A key as it is compared. -/
def foldKey (key : String) : String := Unicode.lowered key

namespace Value

/-! ## Tables -/

/-- The entries of a table, or none. -/
def entries : Value → List (String × Value)
  | table _ entries => entries
  | _ => []

/-- Where a table comes from as a whole. -/
def tableOrigin : Value → Option String
  | table origin _ => origin
  | _ => none

/-- What a table has under a key. -/
def find? (v : Value) (key : String) : Option Value := v.entries.lookup key

/-- Replaces the entry with the key, or adds one at the end. -/
def replaceEntry (key : String) (new : Value) : List (String × Value) → List (String × Value)
  | [] => [(key, new)]
  | (k, old) :: rest =>
    if k = key then (k, new) :: rest else (k, old) :: replaceEntry key new rest

/-- The table with a value under a key. What is no table becomes one. -/
def set (v : Value) (key : String) (new : Value) : Value :=
  table v.tableOrigin (replaceEntry key new v.entries)

mutual
/-- Adds a value under a key. A table is merged into the one that is there. -/
def assign (target : Value) (key : String) : Value → Value
  | table _ incoming =>
    let old := (target.find? (foldKey key)).getD (table none [])
    target.set (foldKey key) (assignAll old incoming)
  | new => target.set (foldKey key) new

/-- Adds values under their keys, one after the other. -/
def assignAll (target : Value) : List (String × Value) → Value
  | [] => target
  | (key, value) :: rest => assignAll (target.assign key value) rest
end

/-! ## Documents -/

mutual
/-- What a document in a file says. Moments are texts. -/
def ofToml (origin : Option String) : Toml.Value → Value
  | .text s => text s
  | .integer i => integer i
  | .float x => float x
  | .boolean b => boolean b
  | .moment m => text m.text
  | .list items => list origin (ofTomlItems origin items)
  | .table entries => table origin (ofTomlEntries origin entries)

def ofTomlItems (origin : Option String) : List Toml.Value → List Value
  | [] => []
  | item :: rest => ofToml origin item :: ofTomlItems origin rest

def ofTomlEntries (origin : Option String) : List (String × Toml.Value) → List (String × Value)
  | [] => []
  | (key, value) :: rest => (key, ofToml origin value) :: ofTomlEntries origin rest
end

end Value

end LexTree.Settings
