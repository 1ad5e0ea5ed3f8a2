import LexTree.Channel
import LexTree.Tree.Dump

/-!
# Streaming the indented listing

- `Tree.writeDump` writes the listing of a tree to a channel piece by piece,
  without ever holding all of it.
-/

namespace LexTree

/-- The pieces in which a node's line is written. -/
def Node.linePieces (n : Node) (depth : Nat) : List String :=
  let payload := n.render
  List.replicate depth "  " ++ ["[", n.type.name, "]"] ++
    (if payload.isEmpty then [] else [" ", payload]) ++ ["\n"]

namespace Tree

/-- Writes the lines of some nodes, up to the first failure. -/
def writeLines (t : Tree) : List (NodeId × Nat) → Channel → Except WriteError Unit × Channel
  | [], c => (.ok (), c)
  | (id, depth) :: rest, c =>
    match c.writeTexts ((t.nodeAt id).linePieces depth) with
    | (.error e, c) => (.error e, c)
    | (.ok (), c) => t.writeLines rest c

/-- Writes the listing of a tree, and flushes after it. -/
def writeDump (t : Tree) (c : Channel) : Except WriteError Unit × Channel :=
  match t.writeLines t.walk.toList c with
  | (.error e, c) => (.error e, c)
  | (.ok (), c) => (c.flush, c)

end Tree

end LexTree
