import LexTree.Pattern.Ast
import LexTree.Text.Blank
import LexTree.Text.RuneClass
import LexTree.Unicode.Letter

/-!
# Reading patterns

A text is read from left to right with a stack of open groups; classes in
brackets keep a stack of their own. In verbose mode blanks and `#` comments
between the parts of a pattern are skipped.

- `Ast.parse` reads a whole text.
- `Parser.readEscape` reads what follows a backslash, `Parser.readClass` what
  follows an opening bracket, `Parser.readCounts` what follows an opening brace.
-/

namespace LexTree.Pattern

namespace Parser

open LexTree.Text LexTree.Unicode

/-- Skips blanks and comments. -/
def skipComments (inComment : Bool) : List Char → List Char
  | [] => []
  | c :: s =>
    if inComment then skipComments (c != '\n') s
    else if isBlank c then skipComments false s
    else if c = '#' then skipComments true s
    else c :: s

/-- Skips blanks and comments in verbose mode. -/
def skip (verbose : Bool) (s : List Char) : List Char :=
  if verbose then skipComments false s else s

/-! ## Flags and names -/

/-- Reads flags up to the end of the parenthesis, `false`, or to a colon, `true`. -/
def readFlags (negated dangling : Bool) (settings : List FlagSetting) :
    List Char → Except PatternError ((List FlagSetting × Bool) × List Char)
  | [] => .error .groupUnclosed
  | ')' :: s =>
    if dangling then .error .flagNegationDangling else .ok ((settings.reverse, false), s)
  | ':' :: s =>
    if dangling then .error .flagNegationDangling else .ok ((settings.reverse, true), s)
  | '-' :: s =>
    if negated then .error .flagNegationRepeated else readFlags true true settings s
  | c :: s =>
    match Flag.ofLetter? c with
    | none => .error .flagUnknown
    | some flag =>
      if settings.any (·.flag = flag) then .error .flagDuplicate
      else readFlags negated false (⟨flag, !negated⟩ :: settings) s

/-- Whether a rune may stand in a group's name. -/
def isNameRune (first : Bool) (c : Char) : Bool :=
  if first then c == '_' || isAlphabetic c
  else c == '_' || c == '.' || c == '[' || c == ']' || isAlphabetic c || isNumeric c

/-- Reads a group's name up to the closing angle bracket. -/
def readName (s : List Char) : Except PatternError (List Char × List Char) :=
  let name := s.takeWhile (· != '>')
  match name, s.dropWhile (· != '>') with
  | first :: others, _ :: rest =>
    if isNameRune true first && others.all (isNameRune false) then .ok (name, rest)
    else .error .groupNameInvalid
  | _, _ => .error .groupNameInvalid

/-! ## Escapes -/

/-- Reads as many hexadecimal digits as told. -/
def readHexDigits (verbose : Bool) : Nat → Nat → List Char → Except PatternError (Nat × List Char)
  | 0, value, s => .ok (value, s)
  | _ + 1, _, [] => .error .escapeUnfinished
  | count + 1, value, c :: s =>
    match hexDigit? c with
    | none => .error .hexInvalid
    | some digit => readHexDigits verbose count (value * 16 + digit) (skip verbose s)

/-- Reads hexadecimal digits up to a closing brace; `none` before the first. -/
def readHexBrace (verbose : Bool) :
    Nat → Option Nat → List Char → Except PatternError (Nat × List Char)
  | 0, _, _ => .error .escapeUnfinished
  | fuel + 1, value, s =>
    match skip verbose s with
    | [] => .error .escapeUnfinished
    | c :: s =>
      if c.toNat = 0x7D then
        match value with
        | none => .error .hexInvalid
        | some value => .ok (value, skip verbose s)
      else
        match hexDigit? c with
        | none => .error .hexInvalid
        | some digit => readHexBrace verbose fuel (some (value.getD 0 * 16 + digit)) s

/-- Reads the code point of a hexadecimal escape with so many digits, or any
number of them in braces. -/
def readHex (verbose : Bool) (digits : Nat) (s : List Char) :
    Except PatternError (Ast × List Char) := do
  let s := skip verbose s
  let braced := s.head?.any (·.toNat = 0x7B)
  let (code, s) ←
    if braced then readHexBrace verbose (s.length + 1) none s.tail
    else readHexDigits verbose digits 0 s
  match rune? code with
  | none => .error .hexInvalid
  | some rune => .ok (.literal rune (digits = 2 && !braced), s)

/-- The part of a word boundary's name that may be read, and the text after it. -/
def takeBoundaryName (verbose : Bool) : Nat → List Char → List Char → List Char × List Char
  | 0, name, s => (name.reverse, s)
  | _, name, [] => (name.reverse, [])
  | fuel + 1, name, c :: s =>
    if isAsciiLetter c || c = '-' then takeBoundaryName verbose fuel (c :: name) (skip verbose s)
    else (name.reverse, c :: s)

/-- Reads the name in braces that may follow `\b`. Braces that cannot hold one
are left to a repetition. -/
def readBoundary (verbose : Bool) (s : List Char) : Except PatternError (Ast × List Char) :=
  if s.head?.any (·.toNat = 0x7B) then
    match skip verbose s.tail with
    | [] => .error .wordBoundaryUnknown
    | first :: rest =>
      if isAsciiLetter first || first = '-' then
        let (name, rest) := takeBoundaryName verbose (rest.length + 1) [] (first :: rest)
        if rest.head?.any (·.toNat = 0x7D) then
          match String.ofList name with
          | "start" => .ok (.assertion .wordStart, rest.tail)
          | "end" => .ok (.assertion .wordEnd, rest.tail)
          | "start-half" => .ok (.assertion .wordStartHalf, rest.tail)
          | "end-half" => .ok (.assertion .wordEndHalf, rest.tail)
          | _ => .error .wordBoundaryUnknown
        else .error .wordBoundaryUnknown
      else .ok (.assertion .wordBoundary, s)
  else .ok (.assertion .wordBoundary, s)

/-- The runes up to a closing brace, and the text after it. -/
def takeBraced (verbose : Bool) : Nat → List Char → List Char → Option (List Char × List Char)
  | 0, _, _ => none
  | fuel + 1, name, s =>
    match skip verbose s with
    | [] => none
    | c :: s =>
      if c.toNat = 0x7D then some (name.reverse, s) else takeBraced verbose fuel (c :: name) s

/-- Splits a name at the first place of a mark. -/
def splitAt? (mark : List Char) : List Char → Option (List Char × List Char)
  | [] => none
  | c :: s =>
    if mark.isPrefixOf (c :: s) then some ([], (c :: s).drop mark.length)
    else (splitAt? mark s).map fun (left, right) => (c :: left, right)

/-- The class with a name in braces. An inequality counts first, then a colon. -/
def propertyOf (negated : Bool) (name : List Char) : PropertyClass :=
  match splitAt? ['!', '='] name with
  | some (property, value) => ⟨.valued property value, !negated⟩
  | none =>
    match (splitAt? [':'] name).or (splitAt? ['='] name) with
    | some (property, value) => ⟨.valued property value, negated⟩
    | none => ⟨.plain name, negated⟩

/-- Reads the name of a property, one rune or some in braces. -/
def readProperty (verbose negated : Bool) (s : List Char) :
    Except PatternError (Ast × List Char) :=
  match skip verbose s with
  | [] => .error .escapeUnfinished
  | '\\' :: _ => .error .propertyUnknown
  | c :: s =>
    if c.toNat = 0x7B then
      match takeBraced verbose (s.length + 1) [] s with
      | none => .error .escapeUnfinished
      | some (name, s) => .ok (.property (propertyOf negated name), s)
    else .ok (.property ⟨.plain [c], negated⟩, s)

/-- Reads what follows a backslash. -/
def readEscape (verbose : Bool) : List Char → Except PatternError (Ast × List Char)
  | [] => .error .escapeUnfinished
  | 'x' :: s => readHex verbose 2 s
  | 'u' :: s => readHex verbose 4 s
  | 'U' :: s => readHex verbose 8 s
  | 'd' :: s => .ok (.shorthand .digit false, s)
  | 'D' :: s => .ok (.shorthand .digit true, s)
  | 's' :: s => .ok (.shorthand .blank false, s)
  | 'S' :: s => .ok (.shorthand .blank true, s)
  | 'w' :: s => .ok (.shorthand .word false, s)
  | 'W' :: s => .ok (.shorthand .word true, s)
  | 'p' :: s => readProperty verbose false s
  | 'P' :: s => readProperty verbose true s
  | 'a' :: s => .ok (.literal '\x07' false, s)
  | 'f' :: s => .ok (.literal '\x0C' false, s)
  | 't' :: s => .ok (.literal '\t' false, s)
  | 'n' :: s => .ok (.literal '\n' false, s)
  | 'r' :: s => .ok (.literal '\r' false, s)
  | 'v' :: s => .ok (.literal '\x0B' false, s)
  | 'A' :: s => .ok (.assertion .textStart, s)
  | 'z' :: s => .ok (.assertion .textEnd, s)
  | 'B' :: s => .ok (.assertion .notWordBoundary, s)
  | 'b' :: s => readBoundary verbose s
  | '<' :: s => .ok (.assertion .wordStart, s)
  | '>' :: s => .ok (.assertion .wordEnd, s)
  | c :: s =>
    if isAsciiDigit c then .error .backReference
    else if isAscii c && !isAsciiLetter c then .ok (.literal c false, s)
    else .error .escapeUnknown

/-! ## Repetition counts -/

/-- The digits at the start of a text, and the text after them. -/
def takeDigits (verbose : Bool) : Nat → List Char → List Char → List Char × List Char
  | 0, digits, s => (digits.reverse, s)
  | _, digits, [] => (digits.reverse, [])
  | fuel + 1, digits, c :: s =>
    if isAsciiDigit c then takeDigits verbose fuel (c :: digits) (skip verbose s)
    else (digits.reverse, c :: s)

/-- Skips blanks in any mode, and comments too in verbose mode. -/
def skipBlanks (verbose : Bool) (s : List Char) : List Char :=
  skip verbose (s.dropWhile isBlank)

/-- Reads a number of 32 bits, with blanks around it. -/
def readDecimal (verbose : Bool) (s : List Char) : Except PatternError (Nat × List Char) :=
  let (digits, rest) := takeDigits verbose (s.length + 1) [] (s.dropWhile isBlank)
  if digits.isEmpty then .error .countMissing
  else
    let value := digits.foldl (fun value c => value * 10 + (c.toNat - '0'.toNat)) 0
    if value < 0x100000000 then
      .ok (value, if rest.head?.any isBlank then skipBlanks verbose rest else rest)
    else .error .countTooLarge

/-- Reads the counts that follow an opening brace, and the closing brace. -/
def readCounts (verbose : Bool) (s : List Char) :
    Except PatternError ((Nat × Option Nat) × List Char) := do
  let (least, s) ← readDecimal verbose (skip verbose s)
  let (most, s) ←
    match s with
    | ',' :: s =>
      let s := skip verbose s
      if s.head?.any (·.toNat = 0x7D) then pure (none, s)
      else do
        let (most, s) ← readDecimal verbose s
        pure (some most, s)
    | s => pure (some least, s)
  match s with
  | c :: s =>
    if c.toNat ≠ 0x7D then .error .countUnclosed
    else if most.any (· < least) then .error .countsReversed
    else .ok ((least, most), s)
  | [] => .error .countUnclosed

/-! ## Classes -/

/-- A class whose closing bracket is still to come: an operator that waits for
its right side, and the items since, latest first. -/
structure OpenClass where
  negated : Bool
  pending : Option (SetOp × ClassSet)
  items : List ClassSet

namespace OpenClass

def push (c : OpenClass) (item : ClassSet) : OpenClass := { c with items := item :: c.items }

/-- All that has been read of a class. -/
def set (c : OpenClass) : ClassSet :=
  let items := ClassSet.ofItems c.items.reverse
  match c.pending with
  | none => items
  | some (op, left) => .combine op left items

def operator (c : OpenClass) (op : SetOp) : OpenClass :=
  { c with pending := some (op, c.set), items := [] }

end OpenClass

/-- Reads hyphens at the start of a class, which stand for themselves. -/
def readHyphens (verbose : Bool) :
    Nat → List ClassSet → List Char → Except PatternError (List ClassSet × List Char)
  | 0, _, _ => .error .classUnclosed
  | _, _, [] => .error .classUnclosed
  | fuel + 1, items, c :: s =>
    if c = '-' then readHyphens verbose fuel (.range '-' '-' :: items) (skip verbose s)
    else .ok (items, c :: s)

/-- Reads the start of a class: a caret, hyphens, and a closing bracket that is
the first item. -/
def readClassStart (verbose : Bool) (s : List Char) :
    Except PatternError (OpenClass × List Char) := do
  let s := skip verbose s
  let negated := s.head? = some '^'
  let s := if negated then skip verbose s.tail else s
  let (items, s) ← readHyphens verbose (s.length + 1) [] s
  match items, s with
  | [], ']' :: s =>
    let s := skip verbose s
    if s.isEmpty then .error .classUnclosed else .ok (⟨negated, none, [.range ']' ']']⟩, s)
  | items, s => .ok (⟨negated, none, items⟩, s)

/-- The named class at the start of a text that follows an opening bracket. -/
def namedClass? : List Char → Option (ClassSet × List Char)
  | ':' :: s =>
    let negated := s.head? = some '^'
    let s := if negated then s.tail else s
    match s.dropWhile (· != ':') with
    | ':' :: ']' :: rest =>
      (NamedClass.ofName? (String.ofList (s.takeWhile (· != ':')))).map
        fun cls => (.named cls negated, rest)
    | _ => none
  | _ => none

/-- What follows a hyphen in a class, past blanks in verbose mode. -/
def afterHyphen (verbose : Bool) (s : List Char) : Option Char :=
  if verbose then
    let rest := s.dropWhile isBlank
    let rest := if rest.head? = some '#' then rest.tail.dropWhile isBlank else rest
    if rest.isEmpty then s.head? else rest.head?
  else s.head?

/-- Reads one rune or shorthand of a class. -/
def readClassItem (verbose : Bool) : List Char → Except PatternError (Ast × List Char)
  | [] => .error .classUnclosed
  | '\\' :: s => readEscape verbose s
  | c :: s => .ok (.literal c false, s)

/-- Reads an item of a class, which may be a range. -/
def readClassRange (verbose : Bool) (s : List Char) :
    Except PatternError (ClassSet × List Char) := do
  let (first, s) ← readClassItem verbose s
  let single (s : List Char) : Except PatternError (ClassSet × List Char) :=
    match first with
    | .literal c _ => .ok (.range c c, s)
    | .shorthand cls negated => .ok (.shorthand cls negated, s)
    | .property cls => .ok (.property cls, s)
    | _ => .error .classEscapeInvalid
  match skip verbose s with
  | [] => .error .classUnclosed
  | '-' :: rest =>
    let next := afterHyphen verbose rest
    if next = some ']' || next = some '-' then single ('-' :: rest)
    else do
      let (last, rest) ← readClassItem verbose (skip verbose rest)
      match first, last with
      | .literal first _, .literal last _ =>
        if first ≤ last then .ok (.range first last, rest) else .error .classRangeInvalid
      | _, _ => .error .classRangeInvalid
  | s => single s

/-- Reads on in a class within the classes of `outer`. -/
def readItems (verbose : Bool) :
    Nat → OpenClass → List OpenClass → List Char → Except PatternError (Ast × List Char)
  | 0, _, _, _ => .error .classUnclosed
  | fuel + 1, cls, outer, s =>
    match skip verbose s with
    | [] => .error .classUnclosed
    | '[' :: s =>
      match namedClass? s with
      | some (item, s) => readItems verbose fuel (cls.push item) outer s
      | none => do
        let (inner, s) ← readClassStart verbose s
        readItems verbose fuel inner (cls :: outer) s
    | ']' :: s =>
      match outer with
      | [] => .ok (.bracketed cls.negated cls.set, s)
      | parent :: outer =>
        readItems verbose fuel (parent.push (.bracketed cls.negated cls.set)) outer s
    | '&' :: '&' :: s => readItems verbose fuel (cls.operator .intersection) outer s
    | '-' :: '-' :: s => readItems verbose fuel (cls.operator .difference) outer s
    | '~' :: '~' :: s => readItems verbose fuel (cls.operator .symmetricDifference) outer s
    | s => do
      let (item, s) ← readClassRange verbose s
      readItems verbose fuel (cls.push item) outer s

/-- Reads a class from after its opening bracket. -/
def readClass (verbose : Bool) (s : List Char) : Except PatternError (Ast × List Char) := do
  let (cls, rest) ← readClassStart verbose s
  readItems verbose (s.length + 1) cls [] rest

/-! ## Groups -/

/-- What surrounds an open group: its own opening, the verbose mode to go back
to, and the branches and parts before it, latest first. -/
structure Frame where
  index : Option Nat
  settings : List FlagSetting
  verbose : Bool
  branches : List Ast
  parts : List Ast

/-- How far a pattern has been read. -/
structure State where
  verbose : Bool
  branches : List Ast
  parts : List Ast
  frames : List Frame
  names : List (List Char)
  captures : Nat

namespace State

def start : State := ⟨false, [], [], [], [], 0⟩

def push (st : State) (part : Ast) : State := { st with parts := part :: st.parts }

/-- All that has been read of the innermost group. -/
def body (st : State) : Ast :=
  Ast.ofParts .alternation ((Ast.ofParts .concat st.parts.reverse :: st.branches).reverse)

def branch (st : State) : State :=
  { st with branches := Ast.ofParts .concat st.parts.reverse :: st.branches, parts := [] }

/-- Verbose mode after some flags. -/
def verboseAfter (st : State) (settings : List FlagSetting) : Bool :=
  match settings.find? (·.flag = .verbose) with
  | some setting => setting.on
  | none => st.verbose

/-- Opens a group, with a number of its own if it is one that captures. -/
def openGroup (st : State) (captures : Bool) (settings : List FlagSetting) : State :=
  let index := if captures then some (st.captures + 1) else none
  { st with
    verbose := st.verboseAfter settings
    branches := []
    parts := []
    frames := ⟨index, settings, st.verbose, st.branches, st.parts⟩ :: st.frames
    captures := index.getD st.captures }

def closeGroup (st : State) : Except PatternError State :=
  match st.frames with
  | [] => .error .groupUnopened
  | frame :: frames => .ok
    { st with
      verbose := frame.verbose
      branches := frame.branches
      parts := .group frame.index frame.settings st.body :: frame.parts
      frames }

/-- Repeats the latest part. -/
def repeatLast (st : State) (least : Nat) (most : Option Nat) (greedy : Bool) :
    Except PatternError State :=
  match st.parts with
  | [] | .empty :: _ | .flags _ :: _ => .error .repetitionMissing
  | part :: parts => .ok { st with parts := .repetition part least most greedy :: parts }

/-- Opens a group with a name of its own. -/
def openNamed (st : State) (s : List Char) : Except PatternError (State × List Char) := do
  let (name, s) ← readName s
  if st.names.contains name then .error .groupNameDuplicate
  else .ok ({ st.openGroup true [] with names := name :: st.names }, s)

/-- Opens a group from after its parenthesis. -/
def readGroup (st : State) (s : List Char) : Except PatternError (State × List Char) :=
  match skip st.verbose s with
  | '?' :: '=' :: _ | '?' :: '!' :: _ | '?' :: '<' :: '=' :: _ | '?' :: '<' :: '!' :: _ =>
    .error .lookAround
  | '?' :: 'P' :: '<' :: s | '?' :: '<' :: s => st.openNamed s
  | '?' :: s => do
    let ((settings, opens), s) ← readFlags false false [] s
    if opens then .ok (st.openGroup false settings, s)
    else if settings.isEmpty then .error .emptyFlags
    else .ok ({ st.push (.flags settings) with verbose := st.verboseAfter settings }, s)
  | s => .ok (st.openGroup true [], s)

end State

/-- Repeats the latest part, as lazily as the text after the operator says. -/
def repeatAs (st : State) (least : Nat) (most : Option Nat) (s : List Char) :
    Except PatternError (State × List Char) :=
  match s with
  | '?' :: s => (st.repeatLast least most false).map (·, s)
  | s => (st.repeatLast least most true).map (·, s)

/-- Reads on from a rune and the text after it. -/
def step (st : State) (c : Char) (s : List Char) : Except PatternError (State × List Char) :=
  match c with
  | '(' => st.readGroup s
  | ')' => st.closeGroup.map (·, s)
  | '|' => .ok (st.branch, s)
  | '[' => (readClass st.verbose s).map fun (part, s) => (st.push part, s)
  | '?' => repeatAs st 0 (some 1) s
  | '*' => repeatAs st 0 none s
  | '+' => repeatAs st 1 none s
  | '\\' => (readEscape st.verbose s).map fun (part, s) => (st.push part, s)
  | '.' => .ok (st.push .dot, s)
  | '^' => .ok (st.push (.assertion .lineStart), s)
  | '$' => .ok (st.push (.assertion .lineEnd), s)
  | c =>
    if c.toNat = 0x7B then do
      let ((least, most), s) ← readCounts st.verbose s
      repeatAs st least most (skip st.verbose s)
    else .ok (st.push (.literal c false), s)

/-- Reads on to the end of the text; every step takes a rune. -/
def run : Nat → State → List Char → Except PatternError State
  | 0, st, _ => .ok st
  | fuel + 1, st, s =>
    match skip st.verbose s with
    | [] => .ok st
    | c :: s => do
      let (st, s) ← step st c s
      run fuel st s

end Parser

/-- Reads a pattern. -/
def Ast.parse (pattern : String) : Except PatternError Ast := do
  let st ← Parser.run (pattern.length + 1) .start pattern.toList
  if st.frames.isEmpty then
    if st.body.depth ≤ nestLimit then .ok st.body else .error .tooNested
  else .error .groupUnclosed

end LexTree.Pattern
