import LexTree.Text.RuneClass
import LexTree.Unicode.Age
import LexTree.Unicode.Break
import LexTree.Unicode.Property
import LexTree.Unicode.Script

/-!
# Asking for runes by name

Names of properties and values are compared without regard to case, spaces,
hyphens, underscores and the word "is" in front.

- `looseName` is what of a name counts.
- `runesNamed?` are the runes of a property, category or script.
- `runesValued?` are the runes for which a property has a value.
-/

namespace LexTree.Unicode

open LexTree.Text

/-- Whether a rune of a name counts. -/
def isNameRune (rune : Char) : Bool :=
  isAscii rune && rune != ' ' && rune != '_' && rune != '-'

/-- The part of a name that counts, in small letters. A lone `c` after "is" is no
category, and stays a name of its own. -/
def looseName (name : List Char) : String :=
  let plain (s : List Char) := (s.filter isNameRune).map Char.toLower
  match name with
  | i :: s :: rest =>
    if i.toLower = 'i' && s.toLower = 's' then
      if plain rest = ['c'] then "isc" else String.ofList (plain rest)
    else String.ofList (plain name)
  | name => String.ofList (plain name)

/-- The version with a name such as `3.0` or `v30`. -/
def Age.hasName (a : Age) (name : String) : Bool :=
  let major := toString a.major
  let minor := toString a.minor
  name = major ++ "." ++ minor || name = "v" ++ major ++ minor

/-- The runes that stand for something since the version with a name, or an earlier one. -/
def ageNamed? (name : String) : Option RuneSet :=
  (ages.find? (·.hasName name)).map fun last =>
    .unionAll ((ages.filter fun a => a.major < last.major ||
      a.major = last.major && a.minor ≤ last.minor).map fun a => .ofTable a.table)

/-- The runes of the property, category or script with a name. Of three short names that
stand for a category and for another property, the category counts. -/
def runesNamed? (name : List Char) : Option RuneSet :=
  let name := looseName name
  let property := if name = "cf" || name = "sc" || name = "lc" then none else propertyNamed? name
  (property.or (categoryNamed? name)).or (scriptNamed? name)

/-- The runes for which the property with a name has the value with a name. -/
def runesValued? (property value : List Char) : Option RuneSet :=
  let value := looseName value
  match looseName property with
  | "gc" | "generalcategory" => categoryNamed? value
  | "sc" | "script" => scriptNamed? value
  | "scx" | "scriptextensions" => scriptUsesNamed? value
  | "age" => ageNamed? value
  | "gcb" | "graphemeclusterbreak" => graphemeBreakNamed? value
  | "wb" | "wordbreak" => wordBreakNamed? value
  | "sb" | "sentencebreak" => sentenceBreakNamed? value
  | _ => none

end LexTree.Unicode
