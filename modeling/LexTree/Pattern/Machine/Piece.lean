/-!
# Counting states

A machine is put together state by state. Here only the count is kept, since a
machine that grows too large is given up.

- `Draft` is what has been built so far, `Draft.add?` adds states to it.
- `Piece` is a part of a machine that can be built anywhere. `Piece.row`,
  `Piece.repeated` and `Piece.choice` put pieces together.
-/

namespace LexTree.Pattern.Machine

/-- The states of a machine so far, and the bytes for what they hold. -/
structure Draft where
  states : Nat
  room : Nat
deriving DecidableEq, Repr

/-- The most bytes that a machine may take. -/
def sizeLimit : Nat := 10 * 0x100000

/-- Bytes for a state. -/
def stateSize : Nat := 32

/-- Bytes for a range of bytes that a state holds, with the state to which it leads. -/
def edgeSize : Nat := 8

/-- Bytes for a way on from a choice. -/
def waySize : Nat := 4

namespace Draft

def empty : Draft := ⟨0, 0⟩

def size (d : Draft) : Nat := stateSize * d.states + d.room

/-- Adds so many states, and so many bytes for what they hold, unless that is too much. -/
def add? (d : Draft) (states room : Nat) : Option Draft :=
  let d : Draft := ⟨d.states + states, d.room + room⟩
  if d.size ≤ sizeLimit then some d else none

end Draft

/-- What has been built up to the end of a part, and whether the part ends in a choice. -/
structure Built where
  draft : Draft
  atChoice : Bool

/-- Leads from the end of the part to a state, for which a choice needs one more way. -/
def Built.link? (b : Built) : Option Draft := b.draft.add? 0 (if b.atChoice then waySize else 0)

/-- A part of a machine, as what it makes of what has been built. -/
structure Piece where
  build : Draft → Option Built

namespace Piece

/-- Plain states, each of which leads to the next, with some bytes for what they hold. -/
def plain (states room : Nat) : Piece := ⟨fun d => (d.add? states room).map (⟨·, false⟩)⟩

/-- One plain state. -/
def single : Piece := plain 1 0

/-- A choice with so many ways beside the one to what follows it. -/
def fork (ways : Nat) : Piece := ⟨fun d => (d.add? 1 (ways * waySize)).map (⟨·, true⟩)⟩

/-- Builds a piece after what has been built, which leads to it. -/
def after? (p : Piece) (b : Built) : Option Built := do
  let next ← p.build b.draft
  let draft ← { b with draft := next.draft }.link?
  some { next with draft }

/-- A piece that leads on to another. -/
def andThen (p q : Piece) : Piece := ⟨fun d => (p.build d).bind q.after?⟩

/-- Pieces that lead from one to the next; without any, a plain state. -/
def row : List Piece → Piece
  | [] => single
  | p :: ps => ps.foldl andThen p

/-- Builds a piece so many times, each time after what has been built. -/
def buildCopies (p : Piece) : Nat → Built → Option Built
  | 0, b => some b
  | count + 1, b =>
    match p.after? b with
    | none => none
    | some b => buildCopies p count b

/-- A piece so many times; none at all is a plain state. -/
def copies (p : Piece) : Nat → Piece
  | 0 => single
  | count + 1 => ⟨fun d => (p.build d).bind (p.buildCopies count)⟩

/-- A piece after a choice that also leads elsewhere. -/
def skippable (p : Piece) : Piece := (fork 1).andThen p

/-- A piece once or more: a choice at its end leads back to its start. -/
def oneOrMore (p : Piece) : Piece := p.andThen (fork 1)

/-- A piece any number of times. One that takes something leads back to the choice before
it. Otherwise a choice at its end leads back, and another one leads to it or past it. -/
def anyTimes (p : Piece) (takesSomething : Bool) : Piece :=
  if takesSomething then
    ⟨fun d => (((fork 0).andThen p).build d).bind fun body => body.link?.map (⟨·, true⟩)⟩
  else row [p.oneOrMore, fork 1, single]

/-- A piece at least so many times. -/
def atLeast (p : Piece) (takesSomething : Bool) : Nat → Piece
  | 0 => p.anyTimes takesSomething
  | 1 => p.oneOrMore
  | least + 2 => (p.copies (least + 1)).andThen p.oneOrMore

/-- A piece at least so many times, and then some more times or not: each choice leads to
the end as well, which is built before them. -/
def between (p : Piece) (least extra : Nat) : Piece where
  build d := do
    let first ← (p.copies least).build d
    let ending ← first.draft.add? 1 0
    let last ← p.skippable.buildCopies extra { first with draft := ending }
    last.link?.map (⟨·, false⟩)

/-- A piece with bounds on how often. -/
def repeated (p : Piece) (takesSomething : Bool) (least : Nat) : Option Nat → Piece
  | none => p.atLeast takesSomething least
  | some most =>
    if least = 0 && most = 1 then p.skippable.andThen single
    else if least = most then p.copies least
    else p.between least (most - least)

/-- A piece to which a choice leads, and which leads to the end of the choice. -/
def branch (p : Piece) : Piece where
  build d := do
    let body ← p.build d
    let draft ← body.link?
    (draft.add? 0 waySize).map (⟨·, false⟩)

/-- One of several pieces. The choice and its end are built after the first two. -/
def choice : List Piece → Piece
  | [] => single
  | [p] => p
  | p :: q :: ps => row (p.branch :: q.branch :: plain 2 0 :: ps.map branch)

/-- A piece between two states that note where it starts and where it ends. -/
def noted (p : Piece) : Piece := row [single, p, single]

end Piece

end LexTree.Pattern.Machine
