import LexTree.Text.RuneClass
import LexTree.Toml.Quoted

/-!
# Keys

A key is a row of parts with dots between them. A part is bare, of ASCII letters
and digits, `-` and `_`, or a quoted string.

- `key` reads a key with the blanks around its parts.
-/

namespace LexTree.Toml

/-- The most parts that a key may have. -/
def maxKeyParts : Nat := 79

def isBareRune (rune : Char) : Bool :=
  Text.isAsciiLetter rune || Text.isAsciiDigit rune || rune == '-' || rune == '_'

/-- Reads a part of a key. -/
def keyPart : Reading String
  | '"' :: rest => quotedLine ('"' :: rest)
  | '\'' :: rest => quotedLine ('\'' :: rest)
  | text =>
    let name := text.takeWhile isBareRune
    if name.isEmpty then none else some (String.ofList name, text.dropWhile isBareRune)

/-- Reads up to so many parts and one. -/
def keyParts : Nat → Reading (List String)
  | 0, _ => none
  | room + 1, text => do
    let (part, rest) ← keyPart (skipBlanks text)
    match skipBlanks rest with
    | '.' :: rest =>
      let (parts, rest) ← keyParts room rest
      return (part :: parts, rest)
    | rest => return ([part], rest)

/-- A key: the parts before the last, and the last. -/
structure Key where
  path : List String
  last : String

/-- Reads a key. -/
def key : Reading Key := fun text => do
  let (parts, rest) ← keyParts maxKeyParts text
  return (⟨parts.dropLast, parts.getLastD ""⟩, rest)

end LexTree.Toml
