import LexTree.Proofs.Tree.Preorder

/-!
# Outlines

A tree whose nodes are attached at its edge only lists them, in preorder, as they
came.

- `Entry` is a node with its depth, and `Tree.Outlines` says that a tree lists
  certain entries and has its cursor on the edge.
- `Outlines.attach`, `Outlines.enter` and `Outlines.leave`: what attaching a node
  and moving the cursor do to the list and to the cursor's depth.
- `Outlines.map_walk`: what the walk finds.
-/

namespace LexTree

/-- A node and its depth. -/
structure Entry where
  node : Node
  depth : Nat
deriving DecidableEq, Repr

namespace Tree

/-- What the tree `t` has at the entry `x` of a walk. -/
def entryAt? (t : Tree) (x : NodeId × Nat) : Option Entry := (t.node? x.1).map (⟨·, x.2⟩)

/-- The tree lists `entries`, with ids in order, and its cursor is on the edge at `depth`. -/
structure Outlines (t : Tree) (current : Nat) (entries : List Entry) (depth : Nat) : Prop where
  wellFormed : t.WellFormed
  current_lt : current < t.size
  onEdge : t.OnEdge current
  depth_eq : t.depth current = depth
  map_fst : (t.preorder root 0).map (·.1) = List.range t.size
  map_entryAt? : (t.preorder root 0).map t.entryAt? = entries.map some

variable {t : Tree} {current depth : Nat} {entries : List Entry} {node : Node}

theorem outlines_singleton (node : Node) : (singleton node).Outlines root [⟨node, 0⟩] 0 where
  wellFormed := wellFormed_singleton node
  current_lt := Nat.one_pos
  onEdge := (wellFormed_singleton node).onEdge_root
  depth_eq := rfl
  map_fst := rfl
  map_entryAt? := rfl

namespace Outlines

/-- A node attached at the cursor `current` is listed last, one level below it. -/
theorem attach (h : t.Outlines current entries depth) (node : Node) :
    (t.grow current node).Outlines current (entries ++ [⟨node, depth + 1⟩]) depth := by
  have hlt := h.current_lt
  have hsize : (t.grow current node).size = t.size + 1 := size_grow hlt
  have hpreorder : (t.grow current node).preorder root 0 =
      t.preorder root 0 ++ [(t.size, depth + 1)] := by
    rw [h.wellFormed.preorder_root_grow hlt h.onEdge, h.depth_eq]
  have hold : (t.preorder root 0).map (t.grow current node).entryAt? =
      (t.preorder root 0).map t.entryAt? := by
    refine List.map_congr_left fun x hx => ?_
    have hid : x.1 ∈ List.range t.size := by
      rw [← h.map_fst]
      exact List.mem_map_of_mem hx
    rw [entryAt?, node?_grow hlt, if_neg (Nat.ne_of_lt (List.mem_range.mp hid)), entryAt?]
  have hnew : (t.grow current node).entryAt? (t.size, depth + 1) = some ⟨node, depth + 1⟩ := by
    rw [entryAt?, node?_grow hlt, if_pos rfl]
    rfl
  refine ⟨h.wellFormed.grow hlt node, by omega, (h.wellFormed.onEdge_grow hlt h.onEdge).1, ?_, ?_,
    ?_⟩
  · rw [h.wellFormed.depth_grow hlt hlt, h.depth_eq]
  · rw [hpreorder, hsize, List.map_append, h.map_fst, List.range_succ]
    rfl
  · rw [hpreorder, List.map_append, hold, h.map_entryAt?, List.map_append, List.map_singleton, hnew]
    rfl

/-- The cursor may move into the node that was attached. -/
theorem enter (h : t.Outlines current entries depth) (node : Node) :
    (t.grow current node).Outlines t.size (entries ++ [⟨node, depth + 1⟩]) (depth + 1) := by
  have hlt := h.current_lt
  have hsize : (t.grow current node).size = t.size + 1 := size_grow hlt
  have hgrown := h.attach node
  refine ⟨hgrown.wellFormed, by omega, (h.wellFormed.onEdge_grow hlt h.onEdge).2, ?_,
    hgrown.map_fst, hgrown.map_entryAt?⟩
  rw [hgrown.wellFormed.depth_of_parent? (WellFormed.parent?_grow_new hlt), hgrown.depth_eq]

/-- The cursor may move to its parent `p`, one level up. -/
theorem leave {p : Nat} (h : t.Outlines current entries depth) (hp : t.parent? current = some p) :
    t.Outlines p entries (depth - 1) := by
  have hlt := h.wellFormed.parent_lt hp
  have hdepth := h.wellFormed.depth_of_parent? hp
  rw [h.depth_eq] at hdepth
  exact ⟨h.wellFormed, Nat.lt_trans hlt h.current_lt, h.wellFormed.onEdge_parent h.onEdge hp,
    by omega, h.map_fst, h.map_entryAt?⟩

/-- A cursor without a parent is at the root. -/
theorem depth_of_isRoot (h : t.Outlines current entries depth)
    (hroot : t.parent? current = none) : depth = 0 := by
  rcases Nat.eq_zero_or_pos current with rfl | hpos
  · rw [← h.depth_eq]
    exact h.wellFormed.depth_root
  · obtain ⟨p, hp, -⟩ := h.wellFormed.exists_parent current hpos h.current_lt
    rw [hroot] at hp
    cases hp

/-- The walk visits the ids in order, and finds `entries` there. -/
theorem map_walk (h : t.Outlines current entries depth) :
    t.walk.toList.map (·.1) = List.range t.size ∧
      t.walk.toList.map t.entryAt? = entries.map some := by
  have hlength : (t.preorder root 0).length = t.size := by
    rw [← List.length_range (n := t.size), ← h.map_fst, List.length_map]
  rw [h.wellFormed.walk_eq, List.take_of_length_le (Nat.le_of_eq hlength)]
  exact ⟨h.map_fst, h.map_entryAt?⟩

end Outlines

end Tree

end LexTree
