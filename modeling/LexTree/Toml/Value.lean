import LexTree.Number.Binary64
import LexTree.Toml.Moment

/-!
# TOML values

What a TOML document says: a table of values, which are scalars, lists and
tables.
-/

namespace LexTree.Toml

inductive Value where
  | text (s : String)
  | integer (i : Int)
  | float (x : Binary64)
  | boolean (b : Bool)
  | moment (m : Moment)
  | list (items : List Value)
  /-- Entries with distinct keys. -/
  | table (entries : List (String × Value))
deriving Repr, Inhabited

/-- Reads something from the front of a text: what it is, and the rest. -/
abbrev Reading (α : Type) := List Char → Option (α × List Char)

end LexTree.Toml
