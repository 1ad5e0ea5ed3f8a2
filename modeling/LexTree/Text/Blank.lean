/-!
# Blank runes

- `isBlank` is the Unicode property White_Space.
-/

namespace LexTree.Text

/-- Whether a rune has the Unicode property White_Space. -/
def isBlank (rune : Char) : Bool :=
  let n := rune.toNat
  (0x09 ≤ n && n ≤ 0x0D) || n == 0x20 || n == 0x85 || n == 0xA0 || n == 0x1680 ||
    (0x2000 ≤ n && n ≤ 0x200A) || n == 0x2028 || n == 0x2029 || n == 0x202F || n == 0x205F ||
    n == 0x3000

end LexTree.Text
