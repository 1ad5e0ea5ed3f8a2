import LexTree.Text.RuneSet

/-!
# Expressions

What a pattern stands for, once its flags are applied, in a form from which what
does nothing has been left out.

- `Look` is a condition on a place between runes, `Expr` an expression.
- `Expr.ofRunes`, `Expr.repeated`, `Expr.row` and `Expr.choice` put expressions
  together and leave out what does nothing.
- `Expr.leastLength?` says how many bytes a match takes at least, `takesNothing`
  whether it never takes any.
-/

namespace LexTree.Pattern

open LexTree.Text

/-- A condition on a place between runes. -/
inductive Look where
  | textStart
  | textEnd
  /-- The start of a line; `crlf` if a carriage return ends lines too. -/
  | lineStart (crlf : Bool)
  | lineEnd (crlf : Bool)
  /-- Between a rune of a word and another; `unicode` if words are not of ASCII alone. -/
  | wordBoundary (unicode : Bool)
  | notWordBoundary (unicode : Bool)
  | wordStart (unicode : Bool)
  | wordEnd (unicode : Bool)
  | wordStartHalf (unicode : Bool)
  | wordEndHalf (unicode : Bool)
deriving DecidableEq, Repr

/-- An expression. -/
inductive Expr where
  | empty
  /-- Some runes, one after the other. -/
  | literal (runes : List Char)
  /-- One rune of a set; `bytes` if the set was written as one of bytes. -/
  | oneOf (set : RuneSet) (bytes : Bool)
  | look (look : Look)
  /-- At least so many times, and at most so many if there is a bound. -/
  | repetition (body : Expr) (least : Nat) (most : Option Nat) (greedy : Bool)
  | capture (index : Nat) (body : Expr)
  | concat (parts : List Expr)
  | alternation (branches : List Expr)
deriving Repr

namespace Expr

mutual
/-- Whether two expressions are written alike. -/
def same : Expr → Expr → Bool
  | .empty, .empty => true
  | .literal s, .literal t => s == t
  | .oneOf s b, .oneOf t c => s == t && b == c
  | .look a, .look b => a == b
  | .repetition r l m g, .repetition s k n h => r.same s && l == k && m == n && g == h
  | .capture i r, .capture j s => i == j && r.same s
  | .concat rs, .concat ss => sameAll rs ss
  | .alternation rs, .alternation ss => sameAll rs ss
  | _, _ => false

def sameAll : List Expr → List Expr → Bool
  | [], [] => true
  | r :: rs, s :: ss => r.same s && sameAll rs ss
  | _, _ => false
end

/-! ## Lengths -/

mutual
/-- Whether an expression only ever matches the empty text. -/
def takesNothing : Expr → Bool
  | .empty | .look _ => true
  | .literal _ | .oneOf .. => false
  | .repetition body _ most _ => most.isSome && body.takesNothing
  | .capture _ body => body.takesNothing
  | .concat parts => takeNothing parts
  | .alternation branches => takeNothing branches

def takeNothing : List Expr → Bool
  | [] => true
  | part :: parts => part.takesNothing && takeNothing parts
end

/-- Bytes that a text takes. -/
def byteLength (runes : List Char) : Nat := runes.foldl (fun n c => n + c.utf8Size) 0

/-- Combines two lengths that are both there. -/
def bothLengths (combine : Nat → Nat → Nat) : Option Nat → Option Nat → Option Nat
  | some m, some n => some (combine m n)
  | _, _ => none

mutual
/-- The least number of bytes that a match takes; `none` if a set in it is empty. -/
def leastLength? : Expr → Option Nat
  | .empty | .look _ => some 0
  | .literal runes => some (byteLength runes)
  | .oneOf set _ =>
    match set.ranges with
    | [] => none
    | r :: _ => some (Char.ofNat r.first).utf8Size
  | .repetition body least _ _ => body.leastLength?.map (· * least)
  | .capture _ body => body.leastLength?
  | .concat parts => leastOfRow? parts
  | .alternation branches => leastOfChoice? branches

def leastOfRow? : List Expr → Option Nat
  | [] => some 0
  | part :: parts => bothLengths (· + ·) part.leastLength? (leastOfRow? parts)

def leastOfChoice? : List Expr → Option Nat
  | [] => none
  | [branch] => branch.leastLength?
  | branch :: branches => bothLengths min branch.leastLength? (leastOfChoice? branches)
end

/-! ## Putting expressions together -/

/-- An expression that never matches. -/
def never : Expr := .oneOf .empty true

/-- One rune of a set. -/
def ofRunes (set : RuneSet) (bytes : Bool) : Expr :=
  match set.ranges with
  | [] => never
  | [r] => if r.first = r.last then .literal [Char.ofNat r.first] else .oneOf set bytes
  | _ => .oneOf set bytes

/-- An expression so many times. More than one match of nothing adds nothing. -/
def repeated (body : Expr) (least : Nat) (most : Option Nat) (greedy : Bool) : Expr :=
  let (least, most) :=
    if body.takesNothing then (min least 1, some (min (most.getD 1) 1)) else (least, most)
  if most = some 0 then .empty
  else if least = 1 && most = some 1 then body
  else .repetition body least most greedy

/-- The parts of a row, where a row within it counts for its parts. -/
def parts : Expr → List Expr
  | .concat parts => parts
  | .empty => []
  | r => [r]

/-- Joins literals that follow each other. -/
def joinLiterals : List Expr → List Expr
  | [] => []
  | .literal s :: rest =>
    match joinLiterals rest with
    | .literal t :: rest => .literal (s ++ t) :: rest
    | rest => .literal s :: rest
  | r :: rest => r :: joinLiterals rest

/-- Expressions one after the other. -/
def row (rs : List Expr) : Expr :=
  match joinLiterals (rs.flatMap parts) with
  | [] => .empty
  | [r] => r
  | rs => .concat rs

/-- The branches of a choice. -/
def branches : Expr → List Expr
  | .alternation branches => branches
  | r => [r]

/-- The rune of a literal of one. -/
def rune? : Expr → Option RuneRange
  | .literal [c] => some ⟨c.toNat, c.toNat⟩
  | _ => none

/-- The set of an expression for one rune. -/
def set? : Expr → Option RuneSet
  | .oneOf set _ => some set
  | _ => none

/-- The set of runes that a choice stands for, if each branch takes one rune. -/
def runesOfChoice? (rs : List Expr) : Option RuneSet :=
  ((rs.mapM rune?).map .ofRanges).or ((rs.mapM set?).map .unionAll)

/-- One of several expressions that have no common start: a set if each takes one rune. -/
def choiceOf (rs : List Expr) : Expr :=
  match rs.flatMap branches with
  | [] => never
  | [r] => r
  | rs =>
    match runesOfChoice? rs with
    | some set => ofRunes set false
    | none => .alternation rs

/-- How many parts two rows have in common at the start. -/
def commonLength : List Expr → List Expr → Nat
  | r :: rs, s :: ss => if r.same s then commonLength rs ss + 1 else 0
  | _, _ => 0

/-- The parts of a row of more than one. -/
def row? : Expr → Option (List Expr)
  | .concat parts => some parts
  | _ => none

/-- How many parts all of some rows have in common at the start. -/
def commonStart : List (List Expr) → Nat
  | first :: second :: rows =>
    (second :: rows).foldl (fun n parts => min n (commonLength first parts)) first.length
  | _ => 0

/-- One of several expressions, after what is common to the starts of all. A choice within
it has no common start of its own, so none is left after that. -/
def choice (rs : List Expr) : Expr :=
  let rows := ((rs.flatMap branches).mapM row?).getD []
  match commonStart rows with
  | 0 => choiceOf rs
  | n + 1 =>
    let others := rows.map fun parts => row (parts.drop (n + 1))
    row ((rows.headD []).take (n + 1) ++ [choiceOf others])

/-! ## Ends -/

mutual
/-- Whether every match starts at the start of the text. -/
def startsAtStart : Expr → Bool
  | .look l => l == .textStart
  | .repetition body least _ _ => least != 0 && body.startsAtStart
  | .capture _ body => body.startsAtStart
  | .concat parts => rowStarts parts
  | .alternation branches => allStart branches
  | .empty | .literal _ | .oneOf .. => false

/-- The parts count up to the first that takes runes. -/
def rowStarts : List Expr → Bool
  | [] => false
  | part :: parts => part.startsAtStart || part.takesNothing && rowStarts parts

def allStart : List Expr → Bool
  | [] => true
  | branch :: branches => branch.startsAtStart && allStart branches
end

mutual
/-- Whether every match ends at the end of the text. -/
def endsAtEnd : Expr → Bool
  | .look l => l == .textEnd
  | .repetition body least _ _ => least != 0 && body.endsAtEnd
  | .capture _ body => body.endsAtEnd
  | .concat parts => rowEnds parts
  | .alternation branches => allEnd branches
  | .empty | .literal _ | .oneOf .. => false

/-- The parts count from after the last that takes runes, that one included. -/
def rowEnds : List Expr → Bool
  | [] => false
  | part :: parts => rowEnds parts || takeNothing parts && part.endsAtEnd

def allEnd : List Expr → Bool
  | [] => true
  | branch :: branches => branch.endsAtEnd && allEnd branches
end

end Expr

end LexTree.Pattern
