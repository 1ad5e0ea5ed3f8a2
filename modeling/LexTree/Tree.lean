import LexTree.Token

/-!
# Trees in an arena

A tree keeps its nodes in an array; a node's id is its index, and the root has
id 0. Nodes are only ever added, each under one that is there already, so ids
stay valid and a parent comes before its children.

- `Tree.append` attaches a node as the last child of another, or changes
  nothing and says why.
- `Tree.ancestors` climbs to the root, and `Tree.depth` counts the steps.
- `Tree.walkFrom` lists a subtree in preorder, with depths.
-/

namespace LexTree

/-- Opaque tag naming the kind of a node. -/
structure NodeType where
  name : String
deriving DecidableEq, Repr, Inhabited

/-- Node types are ordered by name, code point by code point. -/
def NodeType.compare (a b : NodeType) : Ordering := compareOfLessAndEq a.name b.name

/-- What a node carries beside its type. -/
inductive Payload where
  | text (value : String)
  | int (value : Int)
  | bool (value : Bool)
  /-- No payload at all, not even an empty text. -/
  | nothing
deriving DecidableEq, Repr, Inhabited

/-- The payload as dumps and snapshots show it. -/
def Payload.render : Payload → String
  | text value => value
  | int value => toString value
  | bool true => "true"
  | bool false => "false"
  | nothing => ""

/-- A node on its own: its kind and the input that it was built from. -/
structure Node where
  type : NodeType
  payload : Payload
  span : Span
deriving DecidableEq, Repr, Inhabited

namespace Node

/-- A node with no text in it. -/
def bare (type : NodeType) (span : Span) : Node := ⟨type, .text "", span⟩

/-- A node spanning a token and carrying its value. -/
def ofToken (type : NodeType) (t : Token) : Node := ⟨type, .text t.value, .of t⟩

def render (n : Node) : String := n.payload.render

end Node

/-- Index of a node in its tree. -/
abbrev NodeId := Nat

/-- A node in its place. -/
structure Cell where
  node : Node
  parent : Option NodeId
  children : Array NodeId
deriving DecidableEq, Repr, Inhabited

/-- The nodes of a tree in the order in which they were added, the root first. -/
structure Tree where
  cells : Array Cell
deriving DecidableEq, Repr, Inhabited

inductive NodeError where
  | isRoot (id : NodeId)
  | unknownNode (id : NodeId)
deriving DecidableEq, Repr

def NodeError.message : NodeError → String
  | isRoot id => s!"node {id} is the root and has no parent"
  | unknownNode id => s!"node {id} is not part of this tree"

namespace Tree

/-- A tree of a root alone. -/
def singleton (root : Node) : Tree := ⟨#[⟨root, none, #[]⟩]⟩

def root : NodeId := 0

/-- Number of nodes. -/
def size (t : Tree) : Nat := t.cells.size

def isEmpty (t : Tree) : Bool := t.cells.isEmpty

def contains (t : Tree) (id : NodeId) : Bool := decide (id < t.size)

def get? (t : Tree) (id : NodeId) : Option Cell := t.cells[id]?

/-- Attaches a node as the last child of `parent`: its id, and the new tree. An
error leaves the tree as it was. -/
def append (t : Tree) (parent : NodeId) (node : Node) : Except NodeError NodeId × Tree :=
  if t.contains parent then
    let id := t.size
    let cells := t.cells.push ⟨node, some parent, #[]⟩
    (.ok id, ⟨cells.modify parent fun cell => { cell with children := cell.children.push id }⟩)
  else (.error (.unknownNode parent), t)

/-- Attaches nodes to `parent` one after the other, up to the first error. -/
def appendList (t : Tree) (parent : NodeId) : List Node → Except NodeError (List NodeId) × Tree
  | [] => (.ok [], t)
  | node :: nodes =>
    match t.append parent node with
    | (.error e, t) => (.error e, t)
    | (.ok id, t) =>
      let (ids, t) := t.appendList parent nodes
      (ids.map (id :: ·), t)

/-- Attaches so many nodes, each under the one before: the last id, which is
`parent` itself for none. -/
def appendChain (t : Tree) (parent : NodeId) (node : Node) : Nat → Except NodeError NodeId × Tree
  | 0 => (.ok parent, t)
  | count + 1 =>
    match t.append parent node with
    | (.error e, t) => (.error e, t)
    | (.ok id, t) => t.appendChain id node count

/-! ## Looking around -/

/-- Children of a node, in order. -/
def children (t : Tree) (id : NodeId) : List NodeId :=
  match t.get? id with
  | some cell => cell.children.toList
  | none => []

def parent? (t : Tree) (id : NodeId) : Option NodeId := (t.get? id).bind (·.parent)

/-- The parent of a node. -/
def parent (t : Tree) (id : NodeId) : Except NodeError NodeId :=
  match t.get? id with
  | none => .error (.unknownNode id)
  | some cell =>
    match cell.parent with
    | none => .error (.isRoot id)
    | some parent => .ok parent

def isLeaf (t : Tree) (id : NodeId) : Bool := (t.children id).isEmpty

def isRoot (t : Tree) (id : NodeId) : Bool := (t.parent? id).isNone

/-- Goes from parent to parent, for at most so many steps. -/
def climb (t : Tree) : Nat → NodeId → List NodeId
  | 0, _ => []
  | steps + 1, id =>
    match t.parent? id with
    | none => []
    | some parent => parent :: t.climb steps parent

/-- The parent, the parent's parent and so on up to the root. Every node comes
after its parent, so no path is longer than the tree. -/
def ancestors (t : Tree) (id : NodeId) : List NodeId := t.climb t.size id

/-- The topmost ancestor, or the node itself if it has none. -/
def rootOf (t : Tree) (id : NodeId) : NodeId := (t.ancestors id).getLastD id

/-- Distance from the root. -/
def depth (t : Tree) (id : NodeId) : Nat := (t.ancestors id).length

/-! ## Preorder -/

/-- Takes the latest node off a stack and puts its children on, for at most so
many nodes, adding each with its depth to `visited`. -/
def walkStack (t : Tree) :
    Nat → List (NodeId × Nat) → Array (NodeId × Nat) → Array (NodeId × Nat)
  | 0, _, visited => visited
  | _, [], visited => visited
  | steps + 1, (id, depth) :: stack, visited =>
    t.walkStack steps ((t.children id).map (·, depth + 1) ++ stack) (visited.push (id, depth))

/-- The nodes of the subtree under `id` in preorder, with depths relative to
it. Every node is visited once, so there are no more steps than nodes. -/
def walkFrom (t : Tree) (id : NodeId) : Array (NodeId × Nat) := t.walkStack t.size [(id, 0)] #[]

/-- All nodes in preorder, with their depths. -/
def walk (t : Tree) : Array (NodeId × Nat) := t.walkFrom root

/-- The longest way down from a node. -/
def height (t : Tree) (id : NodeId) : Nat :=
  (t.walkFrom id).foldl (fun h (_, depth) => max h depth) 0

/-- The node of greatest depth, and of greatest id among those, with its depth. -/
def deepest (t : Tree) : NodeId × Nat :=
  t.walk.foldl (fun (best, most) (id, depth) =>
    if most < depth || most == depth && best ≤ id then (id, depth) else (best, most)) (root, 0)

end Tree

end LexTree
