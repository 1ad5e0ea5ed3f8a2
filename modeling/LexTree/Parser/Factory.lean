import LexTree.Tree

/-!
# Node factories

A factory folds one token into a tree. It is given the tree, the node at the
cursor and the token; it may attach nodes, and may return the node for the
cursor to move to.

- `Factory.ignore`, `Factory.ascend`, `Factory.descend` and `Factory.leaf` are
  the built-in ones.
- `Factory.goto` and those after it are moves that grammars of more than nested
  lists make.
-/

namespace LexTree

/-- Folds a token into a tree: where the cursor moves to, if anywhere, and the
tree. -/
abbrev Factory := Tree → NodeId → Token → Option NodeId × Tree

namespace Factory

/-- Leaves no trace of the token. -/
def ignore : Factory := fun t _ _ => (none, t)

/-- Moves to the parent; at the root the cursor stays. -/
def ascend : Factory := fun t current _ => (t.parent? current, t)

/-- Attaches a child to the node at the cursor and moves into it. -/
def descend (make : Token → Node) : Factory := fun t current token =>
  let (added, t) := t.append current (make token)
  (added.toOption, t)

/-- Attaches a child to the node at the cursor and stays. -/
def leaf (make : Token → Node) : Factory := fun t current token =>
  (none, (t.append current (make token)).2)

/-! ## Other moves -/

/-- Moves to a fixed id, whether or not it is in the tree. -/
def goto (id : NodeId) : Factory := fun t _ _ => (some id, t)

/-- Moves to the topmost ancestor. -/
def toRoot : Factory := fun t current _ => (some (t.rootOf current), t)

/-- Attaches a child to a fixed node, and moves into it if `moves`. -/
def appendTo (id : NodeId) (moves : Bool) (make : Token → Node) : Factory := fun t _ token =>
  let (added, t) := t.append id (make token)
  (if moves then added.toOption else none, t)

/-- Moves up by so many ancestors, or to the root if there are fewer. -/
def up (count : Nat) : Factory := fun t current _ =>
  (((t.ancestors current).take count).getLast?, t)

/-- Attaches so many nodes, each under the one before, and moves to the last. -/
def chain (make : Token → Node) (count : Nat) : Factory := fun t current token =>
  let (added, t) := t.appendChain current (make token) count
  (added.toOption, t)

end Factory

end LexTree
