import LexTree.Text.RuneSet

/-!
# Runes as bytes

The runes between two code points, as sequences of ranges of bytes: a rune lies
between the two exactly if its bytes lie in the ranges of one sequence.

- `byteSequences` are the sequences for a range, in the order of their runes.
-/

namespace LexTree.Pattern

open LexTree.Text

/-- The bytes from `first` to `last`. -/
structure ByteRange where
  first : UInt8
  last : UInt8
deriving DecidableEq, Repr

namespace Utf8

/-- The parts of a range on either side of the surrogates. -/
def withoutSurrogates (r : RuneRange) : List RuneRange :=
  if r.first < 0xE000 && 0xD7FF < r.last then [⟨r.first, 0xD7FF⟩, ⟨0xE000, r.last⟩] else [r]

/-- The parts of a range up to a code point and from there on. -/
def splitAfter (code : Nat) (r : RuneRange) : List RuneRange :=
  if r.first ≤ code && code < r.last then [⟨r.first, code⟩, ⟨code + 1, r.last⟩] else [r]

/-- The parts of a range whose runes take equally many bytes. -/
def splitByLength (r : RuneRange) : List RuneRange :=
  (((splitAfter 0x7F r).flatMap (splitAfter 0x7FF)).flatMap (splitAfter 0xFFFF))

/-- The parts of a range of which each fills the blocks of `block` code points that it reaches,
or lies in one of them; then the same with blocks of 64 blocks. -/
def splitByBlock : Nat → Nat → RuneRange → List RuneRange
  | 0, _, r => [r]
  | levels + 1, block, r =>
    if r.first / block = r.last / block then [r]
    else
      let start := (r.first + block - 1) / block * block
      let stop := (r.last + 1) / block * block
      (if r.first < start then [⟨r.first, start - 1⟩] else []) ++
        (if start < stop then splitByBlock levels (block * 64) ⟨start, stop - 1⟩ else []) ++
          if stop ≤ r.last then [⟨stop, r.last⟩] else []

/-- The bytes of a rune. -/
def bytes (code : Nat) : List UInt8 := String.utf8EncodeChar (Char.ofNat code)

/-- The ranges of each byte, of runes that share all bytes before the last one that may be any. -/
def byteRanges (r : RuneRange) : List ByteRange :=
  List.zipWith ByteRange.mk (bytes r.first) (bytes r.last)

end Utf8

open Utf8 in
/-- The sequences of ranges of bytes for a range of runes. -/
def byteSequences (r : RuneRange) : List (List ByteRange) :=
  let parts := ((withoutSurrogates r).flatMap splitByLength).flatMap fun part =>
    if part.last ≤ 0x7F then [part] else splitByBlock 3 64 part
  parts.map byteRanges

end LexTree.Pattern
