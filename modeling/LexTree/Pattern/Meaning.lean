import LexTree.Pattern.Ast
import LexTree.Pattern.Expr
import LexTree.Unicode.Query

/-!
# The meaning of a pattern

Applies the flags of a pattern: which runes a class holds, which condition an
assertion is, and which expression the whole stands for.

- `ClassSet.runes` is the set of a class; ignoring case, a class holds every rune
  that differs only in case from one in it, and negation comes after that.
- `Ast.meaning` is the expression, with the modes for what comes after it.
-/

namespace LexTree.Pattern

open LexTree.Text LexTree.Unicode

/-- The modes at some place of a pattern. -/
structure Modes where
  caseInsensitive : Bool
  multiLine : Bool
  dotMatchesNewline : Bool
  swapGreed : Bool
  unicode : Bool
  crlf : Bool
deriving DecidableEq, Repr

namespace Modes

/-- The modes at the start of a pattern. -/
def default : Modes := ⟨false, false, false, false, true, false⟩

def set (modes : Modes) (setting : FlagSetting) : Modes :=
  match setting.flag with
  | .caseInsensitive => { modes with caseInsensitive := setting.on }
  | .multiLine => { modes with multiLine := setting.on }
  | .dotMatchesNewline => { modes with dotMatchesNewline := setting.on }
  | .swapGreed => { modes with swapGreed := setting.on }
  | .unicode => { modes with unicode := setting.on }
  | .crlf => { modes with crlf := setting.on }
  | .verbose => modes

def setAll (modes : Modes) (settings : List FlagSetting) : Modes := settings.foldl set modes

/-- A set with all that differs from it in case only, if case is ignored. -/
def fold (modes : Modes) (runes : RuneSet) : RuneSet :=
  if !modes.caseInsensitive then runes
  else if modes.unicode then closeUnderCase runes
  else closeUnderAsciiCase runes

/-- A set, or what is not in it. Without Unicode there is no other set than of ASCII. -/
def complement (modes : Modes) (negated : Bool) (runes : RuneSet) : Except PatternError RuneSet :=
  if !negated then .ok runes
  else if modes.unicode then .ok runes.compl
  else .error .notUtf8

end Modes

/-! ## Classes -/

/-- The set of some ranges. -/
def runesIn (ranges : List (Char × Char)) : RuneSet :=
  .ofRanges (ranges.map fun (first, last) => ⟨first.toNat, last.toNat⟩)

def NamedClass.runes : NamedClass → RuneSet
  | .alnum => runesIn [('0', '9'), ('A', 'Z'), ('a', 'z')]
  | .alpha => runesIn [('A', 'Z'), ('a', 'z')]
  | .ascii => runesIn [('\x00', '\x7F')]
  | .blank => runesIn [('\t', '\t'), (' ', ' ')]
  | .cntrl => runesIn [('\x00', '\x1F'), ('\x7F', '\x7F')]
  | .digit => runesIn [('0', '9')]
  | .graph => runesIn [('!', '~')]
  | .lower => runesIn [('a', 'z')]
  | .print => runesIn [(' ', '~')]
  | .punct => runesIn [('!', '/'), (':', '@'), ('[', '\x60'), ('\x7B', '~')]
  | .space => runesIn [('\t', '\r'), (' ', ' ')]
  | .upper => runesIn [('A', 'Z')]
  | .word => runesIn [('0', '9'), ('A', 'Z'), ('_', '_'), ('a', 'z')]
  | .xdigit => runesIn [('0', '9'), ('A', 'F'), ('a', 'f')]

def Shorthand.runes (unicode : Bool) : Shorthand → RuneSet
  | .digit => if unicode then digitRunes else NamedClass.digit.runes
  | .blank => if unicode then blankRunes else NamedClass.space.runes
  | .word => if unicode then wordRunes else NamedClass.word.runes

/-- The set of a class that is asked for by name. -/
def PropertyClass.runes (modes : Modes) (cls : PropertyClass) : Except PatternError RuneSet :=
  let named :=
    match cls.name with
    | .plain name => runesNamed? name
    | .valued property value => runesValued? property value
  match named with
  | none => .error .propertyUnknown
  | some runes =>
    if modes.unicode then modes.complement cls.negated (modes.fold runes)
    else .error .notAllowedInAscii

namespace SetOp

def apply : SetOp → RuneSet → RuneSet → RuneSet
  | intersection, left, right => left.inter right
  | difference, left, right => left.diff right
  | symmetricDifference, left, right => left.symmDiff right

end SetOp

mutual
/-- The set of a class. -/
def ClassSet.runes (modes : Modes) : ClassSet → Except PatternError RuneSet
  | .empty => .ok .empty
  | .range first last =>
    if modes.unicode || isAscii last then .ok (.range first.toNat last.toNat)
    else .error .notAllowedInAscii
  | .named cls negated => modes.complement negated (modes.fold cls.runes)
  | .shorthand cls negated => modes.complement negated (cls.runes modes.unicode)
  | .property cls => cls.runes modes
  | .bracketed negated set =>
    match set.runes modes with
    | .error e => .error e
    | .ok runes => modes.complement negated (modes.fold runes)
  | .union items => (ClassSet.runesOfItems modes items).map RuneSet.unionAll
  | .combine op left right =>
    match left.runes modes, right.runes modes with
    | .ok left, .ok right => .ok (op.apply (modes.fold left) (modes.fold right))
    | .error e, _ | .ok _, .error e => .error e

def ClassSet.runesOfItems (modes : Modes) : List ClassSet → Except PatternError (List RuneSet)
  | [] => .ok []
  | item :: items =>
    match item.runes modes with
    | .error e => .error e
    | .ok runes => (ClassSet.runesOfItems modes items).map (runes :: ·)
end

/-! ## Patterns -/

/-- The condition that an assertion is. -/
def Assertion.look (modes : Modes) : Assertion → Look
  | .textStart => .textStart
  | .textEnd => .textEnd
  | .lineStart => if modes.multiLine then .lineStart modes.crlf else .textStart
  | .lineEnd => if modes.multiLine then .lineEnd modes.crlf else .textEnd
  | .wordBoundary => .wordBoundary modes.unicode
  | .notWordBoundary => .notWordBoundary modes.unicode
  | .wordStart => .wordStart modes.unicode
  | .wordEnd => .wordEnd modes.unicode
  | .wordStartHalf => .wordStartHalf modes.unicode
  | .wordEndHalf => .wordEndHalf modes.unicode

namespace Modes

/-- The runes that a dot matches. -/
def dot (modes : Modes) : RuneSet :=
  if modes.dotMatchesNewline then .all
  else if modes.crlf then (runesIn [('\n', '\n'), ('\r', '\r')]).compl
  else (runesIn [('\n', '\n')]).compl

/-- The expression for a rune. -/
def literal (modes : Modes) (rune : Char) (byte : Bool) : Except PatternError Expr :=
  if byte && !modes.unicode && !isAscii rune then .error .notUtf8
  else if !modes.caseInsensitive then .ok (.literal [rune])
  else if modes.unicode then
    if hasCaseVariant rune then .ok (.ofRunes (closeUnderCase (.single rune)) false)
    else .ok (.literal [rune])
  else if isAsciiLetter rune then .ok (.ofRunes (closeUnderAsciiCase (.single rune)) true)
  else .ok (.literal [rune])

/-- The expression for a class. -/
def ofClass (modes : Modes) (runes : Except PatternError RuneSet) : Except PatternError Expr :=
  runes.map (.ofRunes · !modes.unicode)

end Modes

mutual
/-- The expression that a pattern stands for, and the modes after it. -/
def Ast.meaning (modes : Modes) : Ast → Except PatternError (Expr × Modes)
  | .empty => .ok (.empty, modes)
  | .flags settings => .ok (.empty, modes.setAll settings)
  | .literal rune byte => (modes.literal rune byte).map (·, modes)
  | .dot => if modes.unicode then .ok (.ofRunes modes.dot false, modes) else .error .notUtf8
  | .assertion a => .ok (.look (a.look modes), modes)
  | .shorthand cls negated =>
    (modes.ofClass (modes.complement negated (cls.runes modes.unicode))).map (·, modes)
  | .property cls => (modes.ofClass (cls.runes modes)).map (·, modes)
  | .bracketed negated set =>
    (modes.ofClass (ClassSet.runes modes (.bracketed negated set))).map (·, modes)
  | .repetition body least most greedy =>
    match body.meaning modes with
    | .error e => .error e
    | .ok (body, modes) => .ok (body.repeated least most (greedy != modes.swapGreed), modes)
  | .group index settings body =>
    match body.meaning (modes.setAll settings) with
    | .error e => .error e
    | .ok (body, _) =>
      match index with
      | none => .ok (body, modes)
      | some index => .ok (.capture index body, modes)
  | .alternation branches =>
    (Ast.meanings modes branches).map fun (branches, modes) => (.choice branches, modes)
  | .concat parts => (Ast.meanings modes parts).map fun (parts, modes) => (.row parts, modes)

/-- The expressions for parts or branches, each with the modes after the one before it. -/
def Ast.meanings (modes : Modes) : List Ast → Except PatternError (List Expr × Modes)
  | [] => .ok ([], modes)
  | part :: parts =>
    match part.meaning modes with
    | .error e => .error e
    | .ok (first, modes) =>
      (Ast.meanings modes parts).map fun (others, modes) => (first :: others, modes)
end

end LexTree.Pattern
