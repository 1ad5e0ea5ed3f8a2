import LexTree.Toml.Moment.Reading

/-!
# Tables that stand for moments

A table whose first key is `momentKey` stands for the moment that is written there
as a text, whatever else it holds.

- `Value.stamped?` is a value with moments in the place of such tables.
-/

namespace LexTree.Toml

/-- The key under which a table that stands for a moment has its text. -/
def momentKey : String := "$__toml_private_datetime"

namespace Value

/-- The moment that a text stands for. -/
def momentOf? : Value → Option Value
  | .text s => (looseMoment? s.toList).map .moment
  | _ => none

mutual
/-- A value with moments in the place of the tables that stand for one. There is none if such
a table has no moment. -/
def stamped? : Value → Option Value
  | .table [] => some (.table [])
  | .table ((key, v) :: rest) =>
    if key = momentKey then momentOf? v
    else do return .table ((key, ← stamped? v) :: (← stampedEntries? rest))
  | .list items => (stampedItems? items).map .list
  | v => some v

def stampedItems? : List Value → Option (List Value)
  | [] => some []
  | item :: rest => do return (← stamped? item) :: (← stampedItems? rest)

def stampedEntries? : List (String × Value) → Option (List (String × Value))
  | [] => some []
  | (key, v) :: rest => do return (key, ← stamped? v) :: (← stampedEntries? rest)
end

end Value

end LexTree.Toml
