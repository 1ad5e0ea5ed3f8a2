import LexTree.Text.Blank

/-!
# Elementary rune classes

Classes of runes that grammars put together, beside `isBlank`. All but
`isControl` are classes of ASCII.
-/

namespace LexTree.Text

/-- General category Cc. -/
def isControl (rune : Char) : Bool :=
  rune.toNat ≤ 0x1F || (0x7F ≤ rune.toNat && rune.toNat ≤ 0x9F)

def isAscii (rune : Char) : Bool := rune.toNat ≤ 0x7F

def isAsciiLower (rune : Char) : Bool := 'a' ≤ rune && rune ≤ 'z'

def isAsciiUpper (rune : Char) : Bool := 'A' ≤ rune && rune ≤ 'Z'

def isAsciiLetter (rune : Char) : Bool := isAsciiLower rune || isAsciiUpper rune

def isAsciiDigit (rune : Char) : Bool := '0' ≤ rune && rune ≤ '9'

/-- The ASCII runes that are shown and are neither letters nor digits. -/
def isAsciiPunctuation (rune : Char) : Bool :=
  ('!' ≤ rune && rune ≤ '/') || (':' ≤ rune && rune ≤ '@') || ('[' ≤ rune && rune.toNat ≤ 0x60) ||
    (rune.toNat ≥ 0x7B && rune ≤ '~')

/-- Space, tab, line feed, form feed and carriage return. -/
def isAsciiBlank (rune : Char) : Bool :=
  rune == ' ' || rune == '\t' || rune == '\n' || rune == '\x0C' || rune == '\r'

/-- Value of a hexadecimal digit. -/
def hexDigit? (rune : Char) : Option Nat :=
  if isAsciiDigit rune then some (rune.toNat - '0'.toNat)
  else if 'a' ≤ rune && rune ≤ 'f' then some (rune.toNat - 'a'.toNat + 10)
  else if 'A' ≤ rune && rune ≤ 'F' then some (rune.toNat - 'A'.toNat + 10)
  else none

/-- The rune with a code point, if it is a Unicode scalar value. -/
def rune? (code : Nat) : Option Char :=
  if code.isValidChar then some (Char.ofNat code) else none

end LexTree.Text
