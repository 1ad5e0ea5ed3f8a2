import LexTree.Text.RangeTable

/-!
# Sets of runes

A set of runes is a list of ranges of code points, in increasing order and with
code points between them that are in no range. Code points of surrogates may lie
within a range, but no range ends in one.

- `RuneSet.ofRanges` makes a set of any ranges.
- `union`, `inter`, `diff`, `symmDiff` and `compl` are what they are for sets.
- `RuneSet.toTable` is a table for questions of membership.
-/

namespace LexTree.Text

/-- The code points from `first` to `last`. -/
structure RuneRange where
  first : Nat
  last : Nat
deriving DecidableEq, Repr

namespace RuneRange

/-- The code point of the rune after one. -/
def codeAfter (code : Nat) : Nat := if code = 0xD7FF then 0xE000 else code + 1

/-- The code point of the rune before one. -/
def codeBefore (code : Nat) : Nat := if code = 0xE000 then 0xD7FF else code - 1

/-- The range with two ends, in whatever order. -/
def between (a b : Nat) : RuneRange := if a ≤ b then ⟨a, b⟩ else ⟨b, a⟩

/-- What two ranges have in common. -/
def inter? (r s : RuneRange) : Option RuneRange :=
  let first := max r.first s.first
  let last := min r.last s.last
  if first ≤ last then some ⟨first, last⟩ else none

/-- What is left of a range without another. -/
def diff (r s : RuneRange) : List RuneRange :=
  if s.last < r.first || r.last < s.first then [r]
  else
    (if r.first < s.first then [⟨r.first, codeBefore s.first⟩] else []) ++
      if s.last < r.last then [⟨codeAfter s.last, r.last⟩] else []

end RuneRange

/-- A set of runes. -/
structure RuneSet where
  ranges : List RuneRange
deriving DecidableEq, Repr

namespace RuneSet

/-- Joins ranges that meet or overlap, of ranges in increasing order. -/
def join : List RuneRange → List RuneRange
  | r :: s :: rest =>
    if s.first ≤ r.last + 1 then join (⟨r.first, max r.last s.last⟩ :: rest)
    else r :: join (s :: rest)
  | ranges => ranges
termination_by ranges => ranges.length

/-- The runes in any of some ranges. -/
def ofRanges (ranges : List RuneRange) : RuneSet :=
  ⟨join (ranges.mergeSort fun r s => r.first ≤ s.first)⟩

def empty : RuneSet := ⟨[]⟩

/-- The runes with code points from `first` to `last`. -/
def range (first last : Nat) : RuneSet := ⟨[⟨first, last⟩]⟩

def single (rune : Char) : RuneSet := range rune.toNat rune.toNat

/-- Every rune. -/
def all : RuneSet := range 0 0x10FFFF

def union (s t : RuneSet) : RuneSet := ofRanges (s.ranges ++ t.ranges)

def unionAll (sets : List RuneSet) : RuneSet := ofRanges (sets.flatMap ranges)

def inter (s t : RuneSet) : RuneSet :=
  ⟨s.ranges.flatMap fun r => t.ranges.filterMap r.inter?⟩

def diff (s t : RuneSet) : RuneSet :=
  ⟨t.ranges.foldl (fun ranges r => ranges.flatMap (·.diff r)) s.ranges⟩

def symmDiff (s t : RuneSet) : RuneSet := (s.union t).diff (s.inter t)

/-- The gaps before, between and after ranges, from a code point on. Two ranges that end and
start at the surrogates have no rune between them, and both ends stand for the gap. -/
def gaps (start : Nat) : List RuneRange → List RuneRange
  | [] => if start ≤ 0x10FFFF then [⟨start, 0x10FFFF⟩] else []
  | r :: rest =>
    .between start (RuneRange.codeBefore r.first) :: gaps (RuneRange.codeAfter r.last) rest

/-- The runes that are not in a set. -/
def compl (s : RuneSet) : RuneSet :=
  match s.ranges with
  | ⟨0, last⟩ :: rest => ⟨gaps (RuneRange.codeAfter last) rest⟩
  | ranges => ⟨gaps 0 ranges⟩

/-! ## Tables -/

/-- The set as a table. -/
def toTable (s : RuneSet) : RangeTable :=
  ⟨(s.ranges.flatMap fun r => [r.first, r.last + 1]).toArray⟩

/-- The ranges between flips, taken in pairs. -/
def rangesOf : List Nat → List RuneRange
  | first :: after :: rest => ⟨first, after - 1⟩ :: rangesOf rest
  | _ => []

/-- The set that a table stands for. -/
def ofTable (t : RangeTable) : RuneSet := ⟨rangesOf t.flips.toList⟩

end RuneSet

end LexTree.Text
