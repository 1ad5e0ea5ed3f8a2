import LexTree.Text.RuneSet
import LexTree.Unicode.Script.Shared
import LexTree.Unicode.Script.Table

/-!
# Scripts

- `scriptNamed?` are the runes that are counted to a script.
- `scriptUsesNamed?` are the runes that are used in a script. A shared rune is
  used in the scripts that share it, and no other one.
-/

namespace LexTree.Unicode

open LexTree.Text

/-- The script with a name in small letters, or with a code. -/
def findScript? (name : String) : Option Script :=
  scripts.find? fun s => s.code = name || s.names.contains name

def scriptNamed? (name : String) : Option RuneSet :=
  (findScript? name).map fun s => .ofTable s.table

/-- The runes that are used in a script. -/
def Script.uses (s : Script) : RuneSet :=
  let shared := RuneSet.unionAll (sharedRunes.map fun r => .ofTable r.table)
  let here := RuneSet.unionAll
    ((sharedRunes.filter (·.codes.contains s.code)).map fun r => .ofTable r.table)
  ((RuneSet.ofTable s.table).diff shared).union here

def scriptUsesNamed? (name : String) : Option RuneSet := (findScript? name).map (·.uses)

end LexTree.Unicode
