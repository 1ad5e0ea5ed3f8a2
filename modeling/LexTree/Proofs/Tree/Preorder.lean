import LexTree.Proofs.Tree.Shape
import Mathlib.Data.List.Basic

/-!
# Preorder

The walk with a stack visits a tree as the recursion does that visits a node and
then the subtrees of its children.

- `Tree.preorder` is that recursion.
- `WellFormed.walk_eq`: the walk is the preorder of the root, cut off after as
  many nodes as there are.
- `WellFormed.preorder_grow_of_not_mem`: attaching a node changes nothing in
  subtrees that do not hold its parent.
- `WellFormed.preorder_root_grow`: a node attached where all ancestors are last
  children comes at the very end.
-/

namespace LexTree.Tree

variable {t : Tree} {p q id : Nat} {node : Node}

/-- The subtree under a node in preorder, down to so many levels. -/
def preorderTo (t : Tree) : Nat → NodeId → Nat → List (NodeId × Nat)
  | 0, _, _ => []
  | levels + 1, id, depth =>
    (id, depth) :: (t.children id).flatMap fun c => preorderTo t levels c (depth + 1)

/-- The subtree under `id` in preorder: `id` with `depth`, and the subtrees of its children in
order. -/
def preorder (t : Tree) (id : NodeId) (depth : Nat) : List (NodeId × Nat) :=
  t.preorderTo (t.size - id) id depth

/-! ## Recursion -/

namespace WellFormed

/-- No subtree has more levels than there are ids from `id` on. -/
theorem preorderTo_eq (ht : t.WellFormed) {m n : Nat} (hid : id < t.size) (hm : t.size - id ≤ m)
    (hn : t.size - id ≤ n) (depth : Nat) : t.preorderTo m id depth = t.preorderTo n id depth := by
  induction m generalizing n id depth with
  | zero => omega
  | succ m ih =>
    cases n with
    | zero => omega
    | succ n =>
      rw [preorderTo, preorderTo]
      congr 1
      refine List.flatMap_congr fun c hc => ?_
      have hparent := ht.mem_children_iff.mp hc
      have hlt := ht.parent_lt hparent
      have hc := lt_size_of_parent? hparent
      exact ih hc (by omega) (by omega) _

theorem preorder_eq (ht : t.WellFormed) (hid : id < t.size) (depth : Nat) :
    t.preorder id depth =
      (id, depth) :: (t.children id).flatMap fun c => t.preorder c (depth + 1) := by
  obtain ⟨n, hn⟩ : ∃ n, t.size - id = n + 1 := ⟨t.size - id - 1, by omega⟩
  rw [preorder, hn, preorderTo]
  congr 1
  refine List.flatMap_congr fun c hc => ?_
  have hparent := ht.mem_children_iff.mp hc
  have hlt := ht.parent_lt hparent
  exact ht.preorderTo_eq (lt_size_of_parent? hparent) (by omega) (Nat.le_refl _) _

/-! ## The walk -/

/-- The `stack` of `walkStack` holds the subtrees that are still to be visited, in order. -/
theorem walkStack_eq (ht : t.WellFormed) (steps : Nat) (stack : List (NodeId × Nat))
    (visited : Array (NodeId × Nat)) (hstack : ∀ x ∈ stack, x.1 < t.size) :
    (t.walkStack steps stack visited).toList =
      visited.toList ++ (stack.flatMap fun x => t.preorder x.1 x.2).take steps := by
  induction steps generalizing stack visited with
  | zero => simp [walkStack]
  | succ steps ih =>
    cases stack with
    | nil => simp [walkStack]
    | cons x stack =>
      obtain ⟨id, depth⟩ := x
      obtain ⟨hid, hstack⟩ := List.forall_mem_cons.mp hstack
      have hchildren : ∀ x ∈ (t.children id).map (·, depth + 1) ++ stack, x.1 < t.size := by
        intro x hx
        rcases List.mem_append.mp hx with hx | hx
        · obtain ⟨c, hc, rfl⟩ := List.mem_map.mp hx
          exact lt_size_of_parent? (ht.mem_children_iff.mp hc)
        · exact hstack x hx
      rw [walkStack, ih _ _ hchildren, List.flatMap_cons, ht.preorder_eq hid, List.cons_append,
        List.take_succ_cons, List.flatMap_append, List.flatMap_map, Array.toList_push,
        List.append_assoc, List.singleton_append]

/-- `walk` is the preorder of the root, cut off after as many nodes as there are. -/
theorem walk_eq (ht : t.WellFormed) : t.walk.toList = (t.preorder root 0).take t.size := by
  have hstack : ∀ x ∈ [(root, 0)], x.1 < t.size := by
    intro x hx
    rw [List.mem_singleton.mp hx]
    exact ht.size_pos
  rw [walk, walkFrom, ht.walkStack_eq _ _ _ hstack]
  simp

/-! ## Attaching a node -/

/-- Only subtrees that hold the parent `p` of the new node change. -/
theorem preorder_grow_of_not_mem (ht : t.WellFormed) (hp : p < t.size) (hq : q < t.size)
    (hmem : q ∉ t.lineage p) (depth : Nat) :
    (t.grow p node).preorder q depth = t.preorder q depth := by
  have ht' := ht.grow hp node
  have hsize : (t.grow p node).size = t.size + 1 := size_grow hp
  generalize hn : t.size - q = n
  induction n using Nat.strongRecOn generalizing q depth with
  | ind n ih =>
    have hne : q ≠ p := by
      rintro rfl
      exact hmem List.mem_cons_self
    rw [ht'.preorder_eq (by omega), ht.preorder_eq hq, children_grow hp, if_neg hne]
    congr 1
    refine List.flatMap_congr fun c hc => ?_
    have hparent := ht.mem_children_iff.mp hc
    have hlt := ht.parent_lt hparent
    have hcsize := lt_size_of_parent? hparent
    refine ih (t.size - c) (by omega) hcsize (fun hc => hmem ?_) _ rfl
    exact List.mem_cons_of_mem _ (ht.parent_mem_ancestors hparent p hp hc)

/-- The other children of a node `b` on the way to `p` are not on it, so that their subtrees do not
change. -/
theorem preorder_grow_siblings (ht : t.WellFormed) (hp : p < t.size) (node : Node) {a b : Nat}
    {older younger : List NodeId} (ha : a ∈ t.lineage p) (hb : t.parent? a = some b)
    (hchildren : t.children b = older ++ a :: younger) (depth : Nat) :
    older.flatMap (fun c => (t.grow p node).preorder c depth) =
        older.flatMap (fun c => t.preorder c depth) ∧
      younger.flatMap (fun c => (t.grow p node).preorder c depth) =
        younger.flatMap fun c => t.preorder c depth := by
  have hsorted := ht.pairwise_children b
  rw [hchildren, List.pairwise_append, List.pairwise_cons] at hsorted
  obtain ⟨-, ⟨hyounger, -⟩, holder⟩ := hsorted
  have hsame : ∀ c ∈ t.children b, c ≠ a →
      (t.grow p node).preorder c depth = t.preorder c depth := by
    intro c hc hne
    have hcb := ht.mem_children_iff.mp hc
    refine ht.preorder_grow_of_not_mem hp (lt_size_of_parent? hcb) (fun hmem => hne ?_) _
    exact ht.eq_of_mem_lineage hcb hb p hp hmem ha
  rw [hchildren] at hsame
  constructor
  · refine List.flatMap_congr fun c hc => hsame c (List.mem_append_left _ hc) ?_
    exact Nat.ne_of_lt (holder c hc a List.mem_cons_self)
  · refine List.flatMap_congr fun c hc => ?_
    exact hsame c (List.mem_append_right _ (List.mem_cons_of_mem _ hc))
      (Nat.ne_of_gt (hyounger c hc))

/-- The new node is alone in its subtree. -/
theorem preorder_grow_new (ht : t.WellFormed) (hp : p < t.size) (depth : Nat) :
    (t.grow p node).preorder t.size depth = [(t.size, depth)] := by
  have hsize : (t.grow p node).size = t.size + 1 := size_grow hp
  rw [(ht.grow hp node).preorder_eq (by omega), children_grow hp, if_neg (Nat.ne_of_gt hp),
    children_of_size_le (Nat.le_refl _)]
  rfl

/-- In the subtree of its parent `p` the new node comes last. -/
theorem preorder_grow_self (ht : t.WellFormed) (hp : p < t.size) (depth : Nat) :
    (t.grow p node).preorder p depth = t.preorder p depth ++ [(t.size, depth + 1)] := by
  have hsize : (t.grow p node).size = t.size + 1 := size_grow hp
  have hold : (t.children p).flatMap (fun c => (t.grow p node).preorder c (depth + 1)) =
      (t.children p).flatMap fun c => t.preorder c (depth + 1) := by
    refine List.flatMap_congr fun c hc => ?_
    have hparent := ht.mem_children_iff.mp hc
    have hlt := ht.parent_lt hparent
    refine ht.preorder_grow_of_not_mem hp (lt_size_of_parent? hparent) (fun hmem => ?_) _
    have := ht.le_of_mem_lineage hp hmem
    omega
  rw [(ht.grow hp node).preorder_eq (by omega), ht.preorder_eq hp, children_grow hp, if_pos rfl,
    List.flatMap_append, hold, List.flatMap_singleton, ht.preorder_grow_new hp, List.cons_append]

end WellFormed

/-! ## The edge -/

/-- The node `id` and all of its ancestors are last children. -/
def OnEdge (t : Tree) (id : NodeId) : Prop :=
  ∀ c ∈ t.lineage id, ∀ q : Nat, t.parent? c = some q → (t.children q).getLast? = some c

namespace WellFormed

theorem onEdge_root (ht : t.WellFormed) : t.OnEdge root := by
  intro c hc q hq
  rw [lineage, ht.ancestors_root] at hc
  rw [List.mem_singleton.mp hc, ht.parent?_root] at hq
  cases hq

/-- The parent of a node with `OnEdge` has it too. -/
theorem onEdge_parent (ht : t.WellFormed) (h : t.OnEdge id) (hp : t.parent? id = some p) :
    t.OnEdge p := by
  intro c hc
  refine h c ?_
  rw [ht.lineage_of_parent? hp]
  exact List.mem_cons_of_mem _ hc

/-- A node attached to `p` with `OnEdge` has it, and so has `p` still. -/
theorem onEdge_grow (ht : t.WellFormed) (hp : p < t.size) (h : t.OnEdge p) :
    (t.grow p node).OnEdge p ∧ (t.grow p node).OnEdge t.size := by
  have ht' := ht.grow hp node
  have hold : (t.grow p node).OnEdge p := by
    intro c hc q hq
    rw [lineage, ht.ancestors_grow hp p hp] at hc
    have hcp := ht.le_of_mem_lineage hp hc
    rw [parent?_grow hp, if_neg (by omega)] at hq
    have hqc := ht.parent_lt hq
    rw [children_grow hp, if_neg (by omega)]
    exact h c hc q hq
  refine ⟨hold, fun c hc q hq => ?_⟩
  rw [ht'.lineage_of_parent? (parent?_grow_new hp)] at hc
  rcases List.mem_cons.mp hc with rfl | hc
  · rw [parent?_grow_new hp] at hq
    cases hq
    rw [children_grow hp, if_pos rfl, List.getLast?_concat]
  · exact hold c hc q hq

/-- What comes at the end of the subtree of a last child `a` comes at the end of that of its parent
`b`. -/
theorem preorder_grow_of_last (ht : t.WellFormed) (hp : p < t.size) {a b depth : Nat}
    {new : NodeId × Nat} (ha : a ∈ t.lineage p) (hb : t.parent? a = some b)
    (hlast : (t.children b).getLast? = some a)
    (hend : (t.grow p node).preorder a (depth + 1) = t.preorder a (depth + 1) ++ [new]) :
    (t.grow p node).preorder b depth = t.preorder b depth ++ [new] := by
  have hsize : (t.grow p node).size = t.size + 1 := size_grow hp
  have hlt := ht.lt_of_mem_ancestors p hp (ht.parent_mem_ancestors hb p hp ha)
  obtain ⟨others, hchildren⟩ := List.getLast?_eq_some_iff.mp hlast
  have hothers : others.flatMap (fun c => (t.grow p node).preorder c (depth + 1)) =
      others.flatMap fun c => t.preorder c (depth + 1) :=
    (ht.preorder_grow_siblings hp node ha hb hchildren _).1
  rw [(ht.grow hp node).preorder_eq (by omega), ht.preorder_eq (by omega), children_grow hp,
    if_neg (by omega), hchildren, List.flatMap_append, List.flatMap_append, hothers,
    List.flatMap_singleton, List.flatMap_singleton, hend, List.cons_append, List.append_assoc]

/-- A node attached to `p` with `OnEdge` comes at the end of the preorder. -/
theorem preorder_root_grow (ht : t.WellFormed) (hp : p < t.size) (h : t.OnEdge p) :
    (t.grow p node).preorder root 0 = t.preorder root 0 ++ [(t.size, t.depth p + 1)] := by
  -- It comes at the end of every subtree that holds it, from its parent's to the root's.
  have hup : ∀ a < t.size, a ∈ t.lineage p →
      (t.grow p node).preorder a (t.depth a) =
        t.preorder a (t.depth a) ++ [(t.size, t.depth p + 1)] →
      (t.grow p node).preorder root (t.depth root) =
        t.preorder root (t.depth root) ++ [(t.size, t.depth p + 1)] := by
    refine ht.induction (fun _ hroot => hroot) fun a b hb ih ha hend => ?_
    rw [ht.depth_of_parent? hb] at hend
    have hbp := ht.parent_mem_ancestors hb p hp ha
    exact ih (List.mem_cons_of_mem _ hbp) (ht.preorder_grow_of_last hp ha hb (h a ha b hb) hend)
  have hroot := hup p hp List.mem_cons_self (ht.preorder_grow_self hp _)
  rwa [ht.depth_root] at hroot

end WellFormed

end LexTree.Tree
