/-!
# Documents

What the data formats write: texts, numbers, lists, and records with named
fields in a fixed order.
-/

namespace LexTree

inductive Document where
  | text (value : String)
  | number (value : Nat)
  | list (items : List Document)
  | record (fields : List (String × Document))
deriving Repr, Inhabited

end LexTree
