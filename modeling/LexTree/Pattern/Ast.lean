/-!
# Patterns as written

The tree of a pattern, before its flags are applied.

- `Ast` is the type of patterns, `ClassSet` that of the classes in brackets.
- `Ast.depth` is what the nesting limit counts.
- `PatternError` lists the ways in which a text can fail to be a pattern.
-/

namespace LexTree.Pattern

/-- Why a text is not a pattern. -/
inductive PatternError where
  | groupUnopened
  | groupUnclosed
  | groupNameInvalid
  | groupNameDuplicate
  | lookAround
  | emptyFlags
  | flagUnknown
  | flagDuplicate
  | flagNegationRepeated
  | flagNegationDangling
  | repetitionMissing
  | countUnclosed
  | countMissing
  | countTooLarge
  | countsReversed
  | escapeUnfinished
  | escapeUnknown
  | backReference
  | hexInvalid
  | propertyUnknown
  | wordBoundaryUnknown
  | classUnclosed
  | classEscapeInvalid
  | classRangeInvalid
  | tooNested
  | notUtf8
  | notAllowedInAscii
  | tooLarge
deriving DecidableEq, Repr

/-- A mode that a pattern turns on or off for the rest of a group. -/
inductive Flag where
  | caseInsensitive
  | multiLine
  | dotMatchesNewline
  | swapGreed
  | unicode
  | crlf
  | verbose
deriving DecidableEq, Repr

/-- The flag with a letter. -/
def Flag.ofLetter? : Char → Option Flag
  | 'i' => some .caseInsensitive
  | 'm' => some .multiLine
  | 's' => some .dotMatchesNewline
  | 'U' => some .swapGreed
  | 'u' => some .unicode
  | 'R' => some .crlf
  | 'x' => some .verbose
  | _ => none

/-- A flag turned on or off. -/
structure FlagSetting where
  flag : Flag
  on : Bool
deriving DecidableEq, Repr

/-- A condition on a place between runes. -/
inductive Assertion where
  /-- `^`: the start of the text, or of a line in multi-line mode. -/
  | lineStart
  /-- `$`: the end of the text, or of a line in multi-line mode. -/
  | lineEnd
  | textStart
  | textEnd
  | wordBoundary
  | notWordBoundary
  | wordStart
  | wordEnd
  | wordStartHalf
  | wordEndHalf
deriving DecidableEq, Repr

/-- The classes with one-letter escapes. -/
inductive Shorthand where
  | digit
  | blank
  | word
deriving DecidableEq, Repr

/-- The named classes, which are all of ASCII. -/
inductive NamedClass where
  | alnum
  | alpha
  | ascii
  | blank
  | cntrl
  | digit
  | graph
  | lower
  | print
  | punct
  | space
  | upper
  | word
  | xdigit
deriving DecidableEq, Repr

/-- The named class with a name. -/
def NamedClass.ofName? : String → Option NamedClass
  | "alnum" => some .alnum
  | "alpha" => some .alpha
  | "ascii" => some .ascii
  | "blank" => some .blank
  | "cntrl" => some .cntrl
  | "digit" => some .digit
  | "graph" => some .graph
  | "lower" => some .lower
  | "print" => some .print
  | "punct" => some .punct
  | "space" => some .space
  | "upper" => some .upper
  | "word" => some .word
  | "xdigit" => some .xdigit
  | _ => none

/-- What runes are asked for by name. -/
inductive PropertyName where
  /-- Of a property, category or script. -/
  | plain (name : List Char)
  /-- For which a property has a value. -/
  | valued (property value : List Char)
deriving DecidableEq, Repr

/-- A class of runes that is asked for by name. -/
structure PropertyClass where
  name : PropertyName
  negated : Bool
deriving DecidableEq, Repr

/-- How two classes in brackets are combined. -/
inductive SetOp where
  | intersection
  | difference
  | symmetricDifference
deriving DecidableEq, Repr

/-- What stands between brackets. -/
inductive ClassSet where
  | empty
  /-- The runes from `first` to `last`; one rune is a range of its own. -/
  | range (first last : Char)
  | named (cls : NamedClass) (negated : Bool)
  | shorthand (cls : Shorthand) (negated : Bool)
  | property (cls : PropertyClass)
  | bracketed (negated : Bool) (set : ClassSet)
  | union (items : List ClassSet)
  | combine (op : SetOp) (left right : ClassSet)
deriving Repr

/-- A pattern as written. -/
inductive Ast where
  | empty
  /-- Flags for the rest of the group. -/
  | flags (settings : List FlagSetting)
  /-- A rune; `byte` if it was written as two hexadecimal digits. -/
  | literal (rune : Char) (byte : Bool)
  | dot
  | assertion (assertion : Assertion)
  | shorthand (cls : Shorthand) (negated : Bool)
  | property (cls : PropertyClass)
  | bracketed (negated : Bool) (set : ClassSet)
  /-- At least so many times, and at most so many if there is a bound; `greedy` if it is
  not marked as lazy. -/
  | repetition (body : Ast) (least : Nat) (most : Option Nat) (greedy : Bool)
  /-- A group, with its number if it is one that captures. -/
  | group (index : Option Nat) (settings : List FlagSetting) (body : Ast)
  | alternation (branches : List Ast)
  | concat (parts : List Ast)
deriving Repr

mutual
/-- Levels of nesting of a class, where single runes and names have none. -/
def ClassSet.depth : ClassSet → Nat
  | .bracketed _ set => set.depth + 1
  | .union items => ClassSet.depthAll items + 1
  | .combine _ left right => max left.depth right.depth + 1
  | _ => 0

def ClassSet.depthAll : List ClassSet → Nat
  | [] => 0
  | item :: items => max item.depth (ClassSet.depthAll items)
end

mutual
/-- Levels of nesting of a pattern, where single runes and assertions have none. -/
def Ast.depth : Ast → Nat
  | .bracketed _ set => set.depth + 1
  | .repetition body _ _ _ => body.depth + 1
  | .group _ _ body => body.depth + 1
  | .alternation branches => Ast.depthAll branches + 1
  | .concat parts => Ast.depthAll parts + 1
  | _ => 0

def Ast.depthAll : List Ast → Nat
  | [] => 0
  | part :: parts => max part.depth (Ast.depthAll parts)
end

/-- The deepest nesting that a pattern may have. -/
def nestLimit : Nat := 250

/-- A list of alternatives or parts; one is no list. -/
def Ast.ofParts (wrap : List Ast → Ast) : List Ast → Ast
  | [] => .empty
  | [part] => part
  | parts => wrap parts

/-- The items of a class; one is no list. -/
def ClassSet.ofItems : List ClassSet → ClassSet
  | [] => .empty
  | [item] => item
  | items => .union items

end LexTree.Pattern
