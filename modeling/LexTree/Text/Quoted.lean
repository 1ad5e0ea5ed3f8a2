import LexTree.Text.Hex
import LexTree.Unicode.Printable

/-!
# Quoted text

A text in double quotes in which every rune that would not show is escaped, so
that a quoted text stays on one line and can be told apart from any other.

- `quote` is the quoted text, `escape` what stands for one rune of it.
-/

namespace LexTree.Text

open LexTree.Unicode

/-- What stands for a rune in quoted text. -/
def escape (rune : Char) : String :=
  match rune with
  | '\x00' => "\\0"
  | '\t' => "\\t"
  | '\n' => "\\n"
  | '\r' => "\\r"
  | '"' => "\\\""
  | '\\' => "\\\\"
  | rune =>
    if isPrintable rune then rune.toString else "\\u\x7b" ++ hexDigits rune.toNat ++ "\x7d"

/-- A text in double quotes. -/
def quote (text : String) : String :=
  (text.foldl (fun out rune => out ++ escape rune) "\"").push '"'

end LexTree.Text
