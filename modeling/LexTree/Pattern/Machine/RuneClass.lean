import Std.Data.TreeMap
import LexTree.Pattern.Machine.Piece
import LexTree.Pattern.Utf8

/-!
# States for one rune

A set of runes takes states for the bytes of the runes. States that are alike are
built once, as far as a table of limited size remembers them.

- `Piece.ofAscii` is for sets of ASCII, which need a single state.
- `Piece.ofRunes` reads the bytes of a rune from the first to the last: sequences
  that end alike share their last states.
- `Piece.ofRunesBackwards` reads them from the last to the first.
-/

namespace LexTree.Pattern.Machine

/-- A range of bytes with the state to which it leads. -/
structure Edge where
  range : ByteRange
  target : Nat
deriving DecidableEq, Repr

namespace Edge

/-- Takes a number into a hash: exclusive or, then a product. -/
def mix (hash : UInt64) (n : Nat) : UInt64 := (hash ^^^ n.toUInt64) * 1099511628211

/-- The hash that takes in nothing yet. -/
def emptyHash : UInt64 := 14695981039346656037

/-- The place of some edges in a table of `size` places. -/
def slot (size : Nat) (edges : List Edge) : Nat :=
  (edges.foldl (fun h e => mix (mix (mix h e.range.first.toNat) e.range.last.toNat) e.target)
    emptyHash).toNat % size

/-- The place of an edge with its target counted first. -/
def slotBackwards (size : Nat) (e : Edge) : Nat :=
  (mix (mix (mix emptyHash e.target) e.range.first.toNat) e.range.last.toNat).toNat % size

end Edge

/-- States for a set of runes: what has been built, and for places of the table the edges
of a state and its number. -/
structure SharedStates where
  draft : Draft
  slots : Std.TreeMap Nat (List Edge × Nat)

namespace SharedStates

/-- The number of the state with some edges, which is built unless the table has it. -/
def find? (s : SharedStates) (slot : Nat) (edges : List Edge) (room : Nat) :
    Option (Nat × SharedStates) :=
  match s.slots[slot]? with
  | some (known, number) => if known = edges then some (number, s) else build
  | none => build
where
  build := do
    let number := s.draft.states
    let draft ← s.draft.add? 1 room
    some (number, ⟨draft, s.slots.insert slot (edges, number)⟩)

end SharedStates

/-! ## From the first byte to the last -/

/-- A state that is not yet complete: its edges, latest first, and the range of bytes that
will lead to the next such state. -/
structure OpenState where
  edges : List Edge
  range : ByteRange

/-- Places in the table of states that start alike. -/
def forwardSlots : Nat := 10000

/-- Completes states, the last one first; the last one leads to `target`. -/
def complete? (target : Nat) : List OpenState → SharedStates → Option (Nat × SharedStates)
  | [], s => some (target, s)
  | state :: rest, s => do
    let (next, s) ← complete? target rest s
    let edges := (⟨state.range, next⟩ :: state.edges).reverse
    s.find? (Edge.slot forwardSlots edges) edges (edgeSize * edges.length)

/-- Adds a sequence to the states of the one before it, and completes those that it does not
share. -/
def addSequence? (target : Nat) :
    List ByteRange → List OpenState → SharedStates → Option (List OpenState × SharedStates)
  | range :: ranges, state :: rest, s =>
    if state.range = range then do
      let (rest, s) ← addSequence? target ranges rest s
      some (state :: rest, s)
    else do
      let (next, s) ← complete? target rest s
      some (⟨⟨state.range, next⟩ :: state.edges, range⟩ :: ranges.map (⟨[], ·⟩), s)
  | ranges, _, s => some (ranges.map (⟨[], ·⟩), s)

/-- Adds all of some sequences. -/
def addSequences? (target : Nat) :
    List (List ByteRange) → List OpenState → SharedStates → Option (List OpenState × SharedStates)
  | [], states, s => some (states, s)
  | sequence :: sequences, states, s =>
    match addSequence? target sequence states s with
    | none => none
    | some (states, s) => addSequences? target sequences states s

/-! ## From the last byte to the first -/

/-- Places in the table of states that end alike. -/
def backwardSlots : Nat := 1000

/-- Builds the states of a sequence, each of which leads to the one before it. -/
def addBackwards? : Nat → List ByteRange → SharedStates → Option SharedStates
  | _, [], s => some s
  | target, range :: ranges, s =>
    let edge : Edge := ⟨range, target⟩
    match s.find? (edge.slotBackwards backwardSlots) [edge] 0 with
    | none => none
    | some (target, s) => addBackwards? target ranges s

/-- Builds the states of all of some sequences, to each of which a choice leads. -/
def addAllBackwards? (target : Nat) :
    List (List ByteRange) → SharedStates → Option SharedStates
  | [], s => some s
  | sequence :: sequences, s =>
    match addBackwards? target sequence s with
    | none => none
    | some s =>
      match s.draft.add? 0 waySize with
      | none => none
      | some draft => addAllBackwards? target sequences { s with draft }

/-! ## Pieces -/

namespace Piece

open Text

/-- One byte in one of some ranges, and the state after it. -/
def ofAscii (ranges : Nat) : Piece := plain 2 (edgeSize * ranges)

/-- A rune whose bytes follow one of some sequences. -/
def ofSequences (sequences : List (List ByteRange)) : Piece where
  build d := do
    let target := d.states
    let d ← d.add? 1 0
    let (states, s) ← addSequences? target sequences [] ⟨d, ∅⟩
    let (_, s) ← complete? target states s
    some ⟨s.draft, false⟩

/-- A rune whose bytes follow one of some sequences, read backwards. -/
def ofSequencesBackwards (sequences : List (List ByteRange)) : Piece where
  build d := do
    let target := d.states + 1
    let d ← d.add? 2 0
    (addAllBackwards? target sequences ⟨d, ∅⟩).map (⟨·.draft, false⟩)

/-- One rune of a set. -/
def ofRunes (backwards : Bool) (set : RuneSet) : Piece :=
  if set.ranges.all (·.last ≤ 0x7F) then ofAscii set.ranges.length
  else
    let sequences := set.ranges.flatMap byteSequences
    if backwards then ofSequencesBackwards sequences else ofSequences sequences

end Piece

end LexTree.Pattern.Machine
