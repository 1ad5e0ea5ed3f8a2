import LexTree.Format.Yaml.Resolve
import LexTree.Text.Hex

/-!
# YAML scalars

How a text is written: plain if that reads back as the same text, in a literal
block if it has several lines, else in single quotes, and in double quotes if
it holds runes that must be escaped.

- `Features.of` notes what stands in the way of each style.
- `Style.choose` picks the style.
- `writeScalar` writes a text in its style.
-/

namespace LexTree.Format.Yaml

/-! ## Runes -/

/-- Whether a rune may stand in a document as it is. -/
def isPrintable (rune : Char) : Bool :=
  let n := rune.toNat
  n == 0x0A || (0x20 ≤ n && n ≤ 0x7E) || (0xA0 ≤ n && n != 0xFEFF && n != 0xFFFE && n != 0xFFFF)

/-- Whether a rune ends a line. -/
def isBreak (rune : Char) : Bool :=
  rune == '\r' || rune == '\n' || rune.toNat == 0x85 || rune.toNat == 0x2028 || rune.toNat == 0x2029

/-- Whether a rune, or the end of the text, separates. -/
def separates : Option Char → Bool
  | none => true
  | some rune => rune == ' ' || rune == '\t' || isBreak rune || rune.toNat == 0

/-- Whether a rune at the start of a plain text would mean something else. -/
def isLeadingIndicator (rune : Char) : Bool :=
  "#,[]&*!|>'\"%@".toList.contains rune || rune.toNat == 0x60 || rune.toNat == 0x7B ||
    rune.toNat == 0x7D

/-! ## What a text holds -/

/-- What stands in the way of the plain and other styles. -/
structure Features where
  /-- Runes that mean something else in a plain text. -/
  indicators : Bool
  lineBreaks : Bool
  /-- Runes that have to be escaped. -/
  special : Bool
  leadingBlank : Bool
  trailingSpace : Bool
  trailingBreak : Bool
  /-- A space right after a line break. -/
  breakSpace : Bool
  /-- A line break right after a space. -/
  spaceBreak : Bool
deriving DecidableEq, Repr

namespace Features

/-- Whether a rune within the text, at its start or not, means something else
in view of the runes around it. -/
def isIndicator (previous : Option Char) (rune : Char) (next : Option Char) : Bool :=
  if previous.isNone then
    isLeadingIndicator rune || (rune == '?' || rune == ':' || rune == '-') && separates next
  else rune == ':' && separates next || rune == '#' && separates previous

/-- Looks at the runes in order, each with the one before. -/
def scan (f : Features) (previous : Option Char) : List Char → Features
  | [] => f
  | rune :: s =>
    let afterBreak := previous.any isBreak
    let afterSpace := previous == some ' '
    let space := rune == ' '
    let breaks := isBreak rune
    scan
      { indicators := f.indicators || isIndicator previous rune s.head?
        lineBreaks := f.lineBreaks || breaks
        special := f.special || !isPrintable rune
        leadingBlank := f.leadingBlank || previous.isNone && (space || breaks)
        trailingSpace := f.trailingSpace || space && s.isEmpty
        trailingBreak := f.trailingBreak || breaks && s.isEmpty
        breakSpace := f.breakSpace || space && afterBreak
        spaceBreak := f.spaceBreak || breaks && afterSpace }
      (some rune) s

/-- What a text holds. Three hyphens or dots at its start are a document mark. -/
def of (s : List Char) : Features :=
  let mark := s.take 3 == ['-', '-', '-'] || s.take 3 == ['.', '.', '.']
  scan ⟨mark, false, false, false, false, false, false, false⟩ none s

def allowsPlain (f : Features) : Bool :=
  !(f.indicators || f.lineBreaks || f.special || f.leadingBlank || f.trailingSpace ||
    f.trailingBreak || f.breakSpace || f.spaceBreak)

def allowsSingleQuotes (f : Features) : Bool := !(f.breakSpace || f.spaceBreak || f.special)

def allowsBlock (f : Features) : Bool := !(f.trailingSpace || f.spaceBreak || f.special)

end Features

inductive Style where
  | plain
  | singleQuoted
  | doubleQuoted
  | literal
deriving DecidableEq, Repr

/-- The style for a text. -/
def Style.choose (text : String) : Style :=
  let s := text.toList
  let f := Features.of s
  if s.contains '\n' then if f.allowsBlock then .literal else .doubleQuoted
  else if f.allowsPlain && !resolvesToOther text then .plain
  else if f.allowsSingleQuotes then .singleQuoted
  else .doubleQuoted

/-! ## Writing -/

/-- A text in single quotes. Quotes are doubled, and after line breaks the text
goes on at the indentation. -/
def singleQuoted (indent : Nat) (s : List Char) : String :=
  let (out, afterBreak) := s.foldl (fun (out, afterBreak) rune =>
    if isBreak rune then (String.push out rune, true)
    else
      let out := if afterBreak then out.pushn ' ' indent else out
      ((if rune == '\'' then out.push '\'' else out).push rune, false)) ("'", false)
  (if afterBreak then out.pushn ' ' indent else out).push '\''

/-- What stands for a rune in double quotes. -/
def escape (rune : Char) : String :=
  match rune.toNat with
  | 0x00 => "\\0"
  | 0x07 => "\\a"
  | 0x08 => "\\b"
  | 0x09 => "\\t"
  | 0x0A => "\\n"
  | 0x0B => "\\v"
  | 0x0C => "\\f"
  | 0x0D => "\\r"
  | 0x1B => "\\e"
  | 0x22 => "\\\""
  | 0x5C => "\\\\"
  | 0x85 => "\\N"
  | 0x2028 => "\\L"
  | 0x2029 => "\\P"
  | code =>
    if isPrintable rune then rune.toString
    else if code ≤ 0xFF then "\\x" ++ Text.hexPadded 'A' 2 code
    else if code ≤ 0xFFFF then "\\u" ++ Text.hexPadded 'A' 4 code
    else "\\U" ++ Text.hexPadded 'A' 8 code

/-- A text in double quotes. -/
def doubleQuoted (s : List Char) : String :=
  (s.foldl (fun out rune => out ++ escape rune) "\"").push '"'

/-- The header of a literal block: how far it is indented, if that cannot be
seen from its first line, and what becomes of the line breaks at its end. -/
def literalHeader (s : List Char) : String :=
  let indentation := if s.head?.any fun rune => rune == ' ' || isBreak rune then "2" else ""
  let chomping :=
    match s.reverse with
    | last :: others =>
      if !isBreak last then "-"
      else if others.head?.all isBreak then "+"
      else ""
    | [] => "-"
  "|" ++ indentation ++ chomping

/-- A text in a literal block, every line of it indented. -/
def literal (indent : Nat) (s : List Char) : String :=
  (s.foldl (fun (out, afterBreak) rune =>
    if isBreak rune then (String.push out rune, true)
    else ((if afterBreak then out.pushn ' ' indent else out).push rune, false))
    (literalHeader s ++ "\n", true)).1

/-- A text in its style, and whether it ends with a line break. -/
def writeScalar (indent : Nat) (text : String) : String × Bool :=
  let s := text.toList
  match Style.choose text with
  | .plain => (text, false)
  | .singleQuoted => (singleQuoted indent s, false)
  | .doubleQuoted => (doubleQuoted s, false)
  | .literal => (literal indent s, s.getLast?.any isBreak)

end LexTree.Format.Yaml
