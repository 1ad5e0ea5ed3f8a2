import LexTree.Tree

/-!
# Indented listings

One line per node in preorder, two spaces of indentation for each level: the
type in brackets and, if there is one, the payload.

- `Tree.dump` is the listing as one text.
-/

namespace LexTree

/-- What the listing says of a node, after the indentation. -/
def Node.label (n : Node) : String :=
  let payload := n.render
  if payload.isEmpty then "[" ++ n.type.name ++ "]" else "[" ++ n.type.name ++ "] " ++ payload

namespace Tree

/-- The node with an id, or an empty one. -/
def nodeAt (t : Tree) (id : NodeId) : Node := ((t.get? id).map (·.node)).getD default

/-- The listing of a tree. -/
def dump (t : Tree) : String :=
  t.walk.foldl (fun out (id, depth) =>
    ((out.pushn ' ' (2 * depth)) ++ (t.nodeAt id).label).push '\n') ""

end Tree

end LexTree
