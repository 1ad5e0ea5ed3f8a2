/-!
# Outlets

An outlet is anything that bytes are written to. One write may take only the first
of the bytes that it is offered; writing all of them goes on until they are taken
or a write fails.

- `Outlet.writeAll` writes all of some bytes, by `Outlet.write`.
- `Outlet.writeTexts` writes texts one after the other.
-/

namespace LexTree

/-- Why output failed. -/
inductive WriteError where
  /-- The outlet was full after so many bytes. -/
  | closed (held : Nat)
  /-- A write took no bytes. -/
  | tookNothing
  | flushFailed
deriving DecidableEq, Repr

def WriteError.message : WriteError → String
  | closed held => s!"closed after {held}"
  | tookNothing => "failed to write whole buffer"
  | flushFailed => "flush failed"

/-- Something that bytes are written to, with states in `σ`. -/
structure Outlet (σ : Type) where
  /-- Offers bytes: how many were taken. -/
  write : σ → ByteArray → Except WriteError Nat × σ
  flush : σ → Except WriteError Unit × σ

namespace Outlet

variable {σ : Type} (o : Outlet σ)

/-- Offers bytes until all are taken, in at most so many writes. -/
def writeRounds : Nat → σ → ByteArray → Except WriteError Unit × σ
  | 0, s, _ => (.ok (), s)
  | rounds + 1, s, bytes =>
    if bytes.isEmpty then (.ok (), s)
    else
      match o.write s bytes with
      | (.error e, s) => (.error e, s)
      | (.ok 0, s) => (.error .tookNothing, s)
      | (.ok count, s) => writeRounds rounds s (bytes.extract count bytes.size)

/-- Writes all of some bytes. Each write takes one at least. -/
def writeAll (s : σ) (bytes : ByteArray) : Except WriteError Unit × σ :=
  o.writeRounds (bytes.size + 1) s bytes

/-- Writes texts one after the other, up to the first failure. -/
def writeTexts : σ → List String → Except WriteError Unit × σ
  | s, [] => (.ok (), s)
  | s, text :: texts =>
    match o.writeAll s text.toUTF8 with
    | (.error e, s) => (.error e, s)
    | (.ok (), s) => writeTexts s texts

end Outlet

end LexTree
