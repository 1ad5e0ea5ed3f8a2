import LexTree.Pattern.Machine.Piece

/-!
# States for a choice of words

Words that start alike share states as long as no word between them in the list
ends where they part, so that words keep their order.

- `trieSize` counts the states for some words, and the bytes for what they hold.
-/

namespace LexTree.Pattern.Machine

/-- A list of words, in bytes. -/
abbrev Words := List (List UInt8)

/-- Adds the rest of a word to the words with the same first byte. -/
def addToGroup (byte : UInt8) (rest : List UInt8) : List (UInt8 × Words) → List (UInt8 × Words)
  | [] => [(byte, [rest])]
  | (b, words) :: groups =>
    if b = byte then (b, rest :: words) :: groups else (b, words) :: addToGroup byte rest groups

/-- The words that do not end here, in chunks between those that do, each by the first
byte; the last chunk and all words in a group come first. -/
def chunksOf (words : Words) : List (List (UInt8 × Words)) :=
  words.foldl (fun chunks word =>
    match word, chunks with
    | byte :: rest, chunk :: chunks => addToGroup byte rest chunk :: chunks
    | [], [[], []] => chunks
    | _, chunks => [] :: chunks) [[]]

/-- Bytes for the edges of a state; one edge alone takes none. -/
def roomForEdges (edges : Nat) : Nat := if edges = 1 then 0 else edgeSize * edges

/-- The state for a chunk, and a way to it from the choice before it. -/
def chunkSize (chunk : List (UInt8 × Words)) : Draft := ⟨1, waySize + roomForEdges chunk.length⟩

def Draft.plus (d e : Draft) : Draft := ⟨d.states + e.states, d.room + e.room⟩

/-- The states for words: none if all end here, else a choice of the chunks that are not empty
and of the end after each chunk but the last. Words of more bytes than `depth` are left out. -/
def trieSize : Nat → Words → Draft
  | 0, _ => .empty
  | depth + 1, words =>
    let chunks := chunksOf words
    let full := chunks.filter (!·.isEmpty)
    if full.isEmpty then .empty
    else
      full.foldl (fun d chunk =>
        chunk.foldl (fun d (_, words) => d.plus (trieSize depth words.reverse))
          (d.plus (chunkSize chunk))) ⟨1, waySize * (chunks.length - 1)⟩

/-- One of some words, and the end that all lead to. -/
def Piece.ofWords (words : Words) : Piece :=
  let size := trieSize ((words.map List.length).foldl max 0 + 1) words
  plain (size.states + 1) size.room

end LexTree.Pattern.Machine
