import LexTree.Consumer

/-!
# Scripted consumers

A consumer given as a list of reader calls. It may do with the reader whatever
a client may do, also leave its marks unbalanced.

- `Script.consumer` runs the calls in order and drafts the collected value.
-/

namespace LexTree

/-- One call on the reader, or on the value collected so far. -/
inductive Script.Action where
  /-- Adds the rune read to the value. -/
  | read
  /-- Adds the rune peeked at to the value. -/
  | peek
  /-- Reads a rune and drops it. -/
  | skip
  | mark
  | rewind
  | commit
  /-- Empties the value. -/
  | clear
  /-- Adds all runes up to the end of the input to the value. -/
  | readToEnd
  /-- Gives up at the end of the input. -/
  | failAtEnd
  /-- Gives up. -/
  | fail
deriving DecidableEq, Repr

/-- Calls in order, and the draft to fill with the value they collect. -/
structure Script where
  actions : List Script.Action
  draft : Token

namespace Script

/-- Does the actions in order: the value in the end, or nothing after giving up. -/
def run : List Action → String → Reader → Option String × Reader
  | [], value, r => (some value, r)
  | .read :: rest, value, r => run rest (value.push r.read.1) r.read.2
  | .peek :: rest, value, r => run rest (value.push r.peek) r
  | .skip :: rest, value, r => run rest value r.read.2
  | .mark :: rest, value, r => run rest value r.mark.2
  | .rewind :: rest, value, r => run rest value r.rewind
  | .commit :: rest, value, r => run rest value r.commit
  | .clear :: rest, _, r => run rest "" r
  | .readToEnd :: rest, value, r =>
    let (value, r) := r.readToEnd value
    run rest value r
  | .failAtEnd :: rest, value, r => if r.atEnd then (none, r) else run rest value r
  | .fail :: _, _, r => (none, r)

def consumer (s : Script) : Consumer := fun r =>
  let (value, rest) := run s.actions "" r
  (value.map fun value => { s.draft with value }, rest)

end Script

end LexTree
