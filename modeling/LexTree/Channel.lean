import LexTree.Outlet

/-!
# Output channels

A channel is an outlet that takes bytes until it is full, and holds those that it
has taken. One write may take only the first of the bytes that it is offered.

- `Channel.write` is one write, and `Channel.flush` may fail on its own account;
  `Channel.outlet` is the outlet with these.
- `Channel.writeAll` and `Channel.writeTexts` write everything to it.
-/

namespace LexTree

/-- A receiver of bytes, and the bytes that it has taken. -/
structure Channel where
  /-- How many bytes it takes in all; no limit if absent. -/
  limit : Option Nat
  /-- The most bytes that one write takes when so many are held; no limit if absent. -/
  chunk : Nat → Option Nat
  /-- Whether a full channel takes nothing instead of failing. -/
  silent : Bool
  flushFails : Bool
  held : ByteArray

namespace Channel

/-- An empty channel that takes everything. -/
def unlimited : Channel := ⟨none, fun _ => none, false, false, .empty⟩

/-- How many of some bytes the next write takes. -/
def room (c : Channel) (size : Nat) : Nat :=
  let size := match c.limit with
    | some limit => min size (limit - c.held.size)
    | none => size
  match c.chunk c.held.size with
  | some chunk => min size chunk
  | none => size

/-- Whether no more bytes are taken. -/
def isFull (c : Channel) : Bool := c.limit.any (· ≤ c.held.size)

/-- Offers bytes to the channel: how many it took. -/
def write (c : Channel) (bytes : ByteArray) : Except WriteError Nat × Channel :=
  if c.isFull && !c.silent then (.error (.closed c.held.size), c)
  else
    let count := c.room bytes.size
    let ⟨limit, chunk, silent, flushFails, held⟩ := c
    (.ok count, ⟨limit, chunk, silent, flushFails, held ++ bytes.extract 0 count⟩)

def flush (c : Channel) : Except WriteError Unit :=
  if c.flushFails then .error .flushFailed else .ok ()

/-- A channel as an outlet, which is its own state. -/
def outlet : Outlet Channel := ⟨write, fun c => (c.flush, c)⟩

/-- Writes all of some bytes. -/
def writeAll (c : Channel) (bytes : ByteArray) : Except WriteError Unit × Channel :=
  outlet.writeAll c bytes

/-- Writes texts one after the other, up to the first failure. -/
def writeTexts (c : Channel) (texts : List String) : Except WriteError Unit × Channel :=
  outlet.writeTexts c texts

end Channel

end LexTree
