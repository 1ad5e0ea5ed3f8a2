import LexTree.Proofs.Tree.Reachable

/-!
# Growth of trees

Calls that attach nodes leave the nodes that are there as they are. Only their
lists of children may become longer.

- `Tree.Grows` are the trees that come of a tree by any such calls. `Grows.appendChain`: chains of
  nodes are among them.
- `Tree.KeptIn` is what is left of the old tree in the new one.
- `Grows.keptIn`: calls that attach nodes keep the tree.
- `Grows.wellFormed`: they keep its links in agreement.
- `Grows.eq_or_size_lt`: they change nothing at all, or there are more nodes.
-/

namespace LexTree.Tree

variable {t u : Tree} {p : Nat}

/-- Trees that come of `t` by attaching nodes, where some of the calls may have been refused. -/
inductive Grows (t : Tree) : Tree → Prop where
  | refl : Grows t t
  | append {u : Tree} (hu : Grows t u) (parent : NodeId) (node : Node) :
      Grows t (u.append parent node).2
  | appendList {u : Tree} (hu : Grows t u) (parent : NodeId) (nodes : List Node) :
      Grows t (u.appendList parent nodes).2

/-- All nodes of `t` are in `u` with their ids, nodes and parents, and with their children at the
start of what are their children there. -/
structure KeptIn (t u : Tree) : Prop where
  size_le : t.size ≤ u.size
  node_eq : ∀ id < t.size, u.node? id = t.node? id
  parent_eq : ∀ id < t.size, u.parent? id = t.parent? id
  children_prefix : ∀ id < t.size, t.children id <+: u.children id

namespace KeptIn

theorem refl (t : Tree) : t.KeptIn t :=
  ⟨Nat.le_refl _, fun _ _ => rfl, fun _ _ => rfl, fun _ _ => List.prefix_rfl⟩

theorem trans {v : Tree} (h : t.KeptIn u) (h' : u.KeptIn v) : t.KeptIn v where
  size_le := Nat.le_trans h.size_le h'.size_le
  node_eq id hid := (h'.node_eq id (Nat.lt_of_lt_of_le hid h.size_le)).trans (h.node_eq id hid)
  parent_eq id hid :=
    (h'.parent_eq id (Nat.lt_of_lt_of_le hid h.size_le)).trans (h.parent_eq id hid)
  children_prefix id hid :=
    (h.children_prefix id hid).trans (h'.children_prefix id (Nat.lt_of_lt_of_le hid h.size_le))

end KeptIn

/-! ## One call -/

theorem keptIn_grow (hp : p < t.size) (node : Node) : t.KeptIn (t.grow p node) where
  size_le := by
    rw [size_grow hp]
    exact Nat.le_succ _
  node_eq id hid := by rw [node?_grow hp, if_neg (Nat.ne_of_lt hid)]
  parent_eq id hid := by rw [parent?_grow hp, if_neg (Nat.ne_of_lt hid)]
  children_prefix id _ := by
    rw [children_grow hp]
    split
    · next heq =>
      rw [heq]
      exact List.prefix_append _ _
    · exact List.prefix_rfl

theorem keptIn_append (t : Tree) (p : NodeId) (node : Node) :
    t.KeptIn (t.append p node).2 := by
  rcases Nat.lt_or_ge p t.size with hp | hp
  · exact keptIn_grow hp node
  · rw [append_of_size_le hp]
    exact .refl t

theorem keptIn_appendList (t : Tree) (p : NodeId) (nodes : List Node) :
    t.KeptIn (t.appendList p nodes).2 := by
  induction nodes generalizing t with
  | nil => exact .refl t
  | cons node nodes ih =>
    rw [appendList]
    rcases Nat.lt_or_ge p t.size with hp | hp
    · rw [append_of_lt hp]
      exact (keptIn_grow hp node).trans (ih _)
    · rw [append_of_size_le hp]
      exact .refl t

/-- A call of `append` that is refused changes nothing, and any other adds a node. -/
theorem append_eq_or_size_lt (t : Tree) (p : NodeId) (node : Node) :
    (t.append p node).2 = t ∨ t.size < (t.append p node).2.size := by
  rcases Nat.lt_or_ge p t.size with hp | hp
  · refine .inr ?_
    rw [append_of_lt hp, size_grow hp]
    exact Nat.lt_succ_self _
  · rw [append_of_size_le hp]
    exact .inl rfl

theorem appendList_eq_or_size_lt (t : Tree) (p : NodeId) (nodes : List Node) :
    (t.appendList p nodes).2 = t ∨ t.size < (t.appendList p nodes).2.size := by
  cases nodes with
  | nil => exact .inl rfl
  | cons node nodes =>
    rw [appendList]
    rcases Nat.lt_or_ge p t.size with hp | hp
    · have hrest := (keptIn_appendList (t.grow p node) p nodes).size_le
      rw [size_grow hp] at hrest
      rw [append_of_lt hp]
      exact .inr hrest
    · rw [append_of_size_le hp]
      exact .inl rfl

/-! ## Any number of calls -/

namespace Grows

/-- `Tree.appendChain` is a row of calls of `Tree.append`, up to one that is refused. -/
theorem appendChain (h : t.Grows u) (p : NodeId) (node : Node) (count : Nat) :
    t.Grows (u.appendChain p node count).2 := by
  induction count generalizing u p with
  | zero => exact h
  | succ count ih =>
    have hnext : t.Grows (u.append p node).2 := h.append p node
    rw [Tree.appendChain]
    split
    · next happend =>
      rw [happend] at hnext
      exact hnext
    · next happend =>
      rw [happend] at hnext
      exact ih hnext _

theorem reachable (h : t.Grows u) (ht : t.Reachable) : u.Reachable := by
  induction h with
  | refl => exact ht
  | append _ parent node ih => exact ih.append parent node
  | appendList _ parent nodes ih => exact ih.appendList parent nodes

/-- No sequence of calls that attach nodes changes what is there. -/
theorem keptIn (h : t.Grows u) : t.KeptIn u := by
  induction h with
  | refl => exact .refl t
  | append _ parent node ih => exact ih.trans (keptIn_append _ parent node)
  | appendList _ parent nodes ih => exact ih.trans (keptIn_appendList _ parent nodes)

theorem wellFormed (h : t.Grows u) (ht : t.WellFormed) : u.WellFormed := by
  induction h with
  | refl => exact ht
  | append _ parent node ih => exact ih.append parent node
  | appendList _ parent nodes ih => exact ih.appendList parent nodes

/-- There is no undoing: if `u` is not `t`, it has more nodes for good. -/
theorem eq_or_size_lt (h : t.Grows u) : u = t ∨ t.size < u.size := by
  have hcall {u v : Tree} (hu : u = t ∨ t.size < u.size) (hv : v = u ∨ u.size < v.size) :
      v = t ∨ t.size < v.size := by
    rcases hu with rfl | hu
    · exact hv
    · rcases hv with rfl | hv
      · exact .inr hu
      · exact .inr (Nat.lt_trans hu hv)
  induction h with
  | refl => exact .inl rfl
  | append _ parent node ih => exact hcall ih (append_eq_or_size_lt _ parent node)
  | appendList _ parent nodes ih => exact hcall ih (appendList_eq_or_size_lt _ parent nodes)

theorem eq_iff_size_eq (h : t.Grows u) : u = t ↔ u.size = t.size := by
  refine ⟨congrArg size, fun hsize => ?_⟩
  rcases h.eq_or_size_lt with heq | hlt
  · exact heq
  · exact absurd hsize (Nat.ne_of_gt hlt)

end Grows

end LexTree.Tree
