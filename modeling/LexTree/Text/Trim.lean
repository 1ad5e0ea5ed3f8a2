import LexTree.Text.Blank

/-!
# Trimming

- `trim` takes the blank runes off both ends of a text.
-/

namespace LexTree.Text

/-- Drops blank runes from the end. -/
def trimRight (runes : List Char) : List Char :=
  (runes.reverse.dropWhile isBlank).reverse

/-- Drops blank runes from both ends. -/
def trim (text : String) : String :=
  String.ofList (trimRight (text.toList.dropWhile isBlank))

end LexTree.Text
