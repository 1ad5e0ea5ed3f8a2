import LexTree.Format.Document
import LexTree.Tree.Dump

/-!
# Snapshots

Ids mean nothing outside their tree, so data formats show a tree as nested
nodes. Readers of such documents limit the nesting, and so do snapshots.

- `Tree.snapshot` nests the subtree under a node, or says how deep it is.
- `Snapshot.document` leaves out empty values and empty lists of children.
- `TokenRecord.of` is what documents show of a token.
-/

namespace LexTree

/-- A node with its subtree. -/
inductive Snapshot where
  | node (type value : String) (span : Span) (children : List Snapshot)
deriving Repr, Inhabited

/-- The deepest nesting of a snapshot. -/
def maxSnapshotNesting : Nat := 128

namespace Tree

/-- Nests the subtree under a node down to some level. -/
def nest (t : Tree) : Nat → NodeId → Snapshot
  | 0, id => .node (t.nodeAt id).type.name (t.nodeAt id).render (t.nodeAt id).span []
  | levels + 1, id =>
    let node := t.nodeAt id
    .node node.type.name node.render node.span ((t.children id).map (t.nest levels))

/-- Nests the subtree under a node; the height of one that is too deep. -/
def snapshot (t : Tree) (id : NodeId) : Except Nat Snapshot :=
  let height := t.height id
  if maxSnapshotNesting < height then .error height else .ok (t.nest maxSnapshotNesting id)

end Tree

mutual
/-- A snapshot as documents show it. -/
def Snapshot.document : Snapshot → Document
  | .node type value span children =>
    .record <|
      [("type", .text type)] ++ (if value.isEmpty then [] else [("value", .text value)]) ++
        [("offset", .number span.offset), ("length", .number span.length)] ++
        match children with
        | [] => []
        | children => [("children", .list (Snapshot.documents children))]

def Snapshot.documents : List Snapshot → List Document
  | [] => []
  | s :: rest => s.document :: Snapshot.documents rest
end

/-- What documents show of a token. -/
structure TokenRecord where
  type : String
  value : String
  offset : Nat
  stop : Nat
deriving DecidableEq, Repr

namespace TokenRecord

def of (t : Token) : TokenRecord := ⟨t.type.name, t.value, t.offset, t.stop⟩

def document (s : TokenRecord) : Document :=
  .record [("type", .text s.type), ("value", .text s.value), ("offset", .number s.offset),
    ("end", .number s.stop)]

end TokenRecord

end LexTree
