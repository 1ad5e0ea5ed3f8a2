import LexTree.Proofs.Tree.Shape

/-!
# Reachable trees

Clients build trees out of a root by calls that attach one node or several, and
that are refused where the parent is not in the tree.

- `Tree.Reachable` are the trees that come of any such calls.
- `Reachable.wellFormed`: their links agree, whatever was refused on the way.
- `Tree.Climbs` is the climb from parent to parent without a bound on its steps,
  and `WellFormed.climbs` says that it finds the ancestors and ends.
- `links_of_reachable`: parents, children, ancestors, depths and leaves of a
  reachable tree.
-/

namespace LexTree.Tree

variable {t : Tree} {p id : Nat} {node : Node}

/-- Trees that come of `singleton` by attaching nodes, where some of the calls may have been
refused. -/
inductive Reachable : Tree → Prop where
  | singleton (root : Node) : Reachable (singleton root)
  | append {t : Tree} (ht : Reachable t) (parent : NodeId) (node : Node) :
      Reachable (t.append parent node).2
  | appendList {t : Tree} (ht : Reachable t) (parent : NodeId) (nodes : List Node) :
      Reachable (t.appendList parent nodes).2

/-! ## Calls -/

/-- A call of `append` with a parent `p` that is not there is refused, and changes nothing. -/
theorem append_of_size_le (hp : t.size ≤ p) :
    t.append p node = (.error (.unknownNode p), t) := by
  have hcontains : t.contains p = false := decide_eq_false (Nat.not_lt.mpr hp)
  rw [append, hcontains]
  rfl

namespace WellFormed

theorem append (ht : t.WellFormed) (p : NodeId) (node : Node) :
    (t.append p node).2.WellFormed := by
  rcases Nat.lt_or_ge p t.size with hp | hp
  · exact ht.grow hp node
  · rw [append_of_size_le hp]
    exact ht

theorem appendList (ht : t.WellFormed) (p : NodeId) (nodes : List Node) :
    (t.appendList p nodes).2.WellFormed := by
  induction nodes generalizing t with
  | nil => exact ht
  | cons node nodes ih =>
    rw [Tree.appendList]
    rcases Nat.lt_or_ge p t.size with hp | hp
    · rw [append_of_lt hp]
      exact ih (ht.grow hp node)
    · rw [append_of_size_le hp]
      exact ht

end WellFormed

/-- No sequence of calls brings the links of a tree out of agreement. -/
theorem Reachable.wellFormed (ht : t.Reachable) : t.WellFormed := by
  induction ht with
  | singleton root => exact wellFormed_singleton root
  | append _ parent node ih => exact ih.append parent node
  | appendList _ parent nodes ih => exact ih.appendList parent nodes

/-! ## Links -/

namespace WellFormed

theorem parent?_eq_none_iff (ht : t.WellFormed) (hid : id < t.size) :
    t.parent? id = none ↔ id = root := by
  constructor
  · intro hnone
    rcases Nat.eq_zero_or_pos id with hzero | hpos
    · exact hzero
    · obtain ⟨p, hp, -⟩ := ht.exists_parent id hpos hid
      rw [hnone] at hp
      cases hp
  · rintro rfl
    exact ht.parent?_root

/-- A node `id` is listed once by its parent, and by no other. -/
theorem count_children (ht : t.WellFormed) (p id : Nat) :
    (t.children p).count id = if t.parent? id = some p then 1 else 0 := by
  have hnodup : (t.children p).Nodup := (ht.pairwise_children p).imp Nat.ne_of_lt
  simp only [hnodup.count, ht.mem_children_iff]

theorem lt_size_of_mem_children (ht : t.WellFormed) (h : id ∈ t.children p) : id < t.size :=
  lt_size_of_parent? (ht.mem_children_iff.mp h)

theorem isLeaf_iff (ht : t.WellFormed) (id : Nat) :
    t.isLeaf id = true ↔ ∀ c < t.size, t.parent? c ≠ some id := by
  rw [isLeaf, List.isEmpty_iff, List.eq_nil_iff_forall_not_mem]
  constructor
  · intro h c _ hc
    exact h c (ht.mem_children_iff.mpr hc)
  · intro h c hc
    exact h c (ht.lt_size_of_mem_children hc) (ht.mem_children_iff.mp hc)

end WellFormed

/-! ## Climbing -/

/-- What a climb yields that goes on at `next`, if anywhere: that node, and what the climb yields
that goes on at its parent. -/
inductive Climbs (t : Tree) : Option NodeId → List NodeId → Prop where
  | done : Climbs t none []
  | step {id : NodeId} {path : List NodeId} : Climbs t (t.parent? id) path →
      Climbs t (some id) (id :: path)

namespace WellFormed

/-- The climb from the parent of `id` on ends, and has found `ancestors id`. -/
theorem climbs (ht : t.WellFormed) :
    ∀ id < t.size, t.Climbs (t.parent? id) (t.ancestors id) := by
  refine ht.induction ?_ fun id p hp ih => ?_
  · rw [ht.parent?_root, ht.ancestors_root]
    exact .done
  · rw [hp, ht.ancestors_of_parent? hp]
    exact .step ih

/-- Ids go down on the way from `id` to the root. -/
theorem pairwise_lineage (ht : t.WellFormed) :
    ∀ id < t.size, (t.lineage id).Pairwise (· > ·) := by
  refine ht.induction ?_ fun id p hp ih => ?_
  · rw [lineage, ht.ancestors_root]
    exact List.pairwise_singleton _ _
  · have hlt := ht.parent_lt hp
    have hsize := lt_size_of_parent? hp
    rw [ht.lineage_of_parent? hp]
    refine List.pairwise_cons.mpr ⟨fun c hc => ?_, ih⟩
    exact Nat.lt_of_le_of_lt (ht.le_of_mem_lineage (Nat.lt_trans hlt hsize) hc) hlt

/-- The way from `id` ends at the root. -/
theorem getLast?_lineage (ht : t.WellFormed) :
    ∀ id < t.size, (t.lineage id).getLast? = some root := by
  refine ht.induction ?_ fun id p hp ih => ?_
  · rw [lineage, ht.ancestors_root]
    rfl
  · rw [ht.lineage_of_parent? hp, lineage, List.getLast?_cons_cons]
    exact ih

theorem getLast?_ancestors (ht : t.WellFormed) (hid : id < t.size) (hne : id ≠ root) :
    (t.ancestors id).getLast? = some root := by
  obtain ⟨p, hp, hlt⟩ := ht.exists_parent id (Nat.pos_of_ne_zero hne) hid
  rw [ht.ancestors_of_parent? hp]
  exact ht.getLast?_lineage p (Nat.lt_trans hlt hid)

theorem rootOf_eq (ht : t.WellFormed) (hid : id < t.size) : t.rootOf id = root := by
  rw [rootOf, List.getLastD_eq_getLast?]
  by_cases hroot : id = root
  · rw [hroot, ht.ancestors_root]
    rfl
  · rw [ht.getLast?_ancestors hid hroot]
    rfl

end WellFormed

/-! ## All together -/

/-- Of a tree that has come of a root by any calls: `root` is the only node without a `parent?`, and
the others come after theirs; a node is among the `children` of its parent once and of no other
node, in increasing order; the climb from a node ends, at ever smaller ids and at `root`; `depth`
counts its steps; and a leaf is a node that is nobody's parent. -/
theorem links_of_reachable (ht : t.Reachable) :
    root < t.size ∧
      (∀ id < t.size, t.parent? id = none ↔ id = root) ∧
      (∀ id p : Nat, t.parent? id = some p → p < id) ∧
      (∀ p id : Nat, (id ∈ t.children p ↔ t.parent? id = some p) ∧
        (t.children p).count id = if t.parent? id = some p then 1 else 0) ∧
      (∀ p : Nat, (t.children p).Pairwise (· < ·) ∧ ∀ c ∈ t.children p, c < t.size) ∧
      (∀ id < t.size, t.Climbs (t.parent? id) (t.ancestors id) ∧
        (id :: t.ancestors id).Pairwise (· > ·) ∧
        (t.ancestors id).getLast? = if id = root then none else some root) ∧
      (t.depth root = 0 ∧ ∀ id p : Nat, t.parent? id = some p → t.depth id = t.depth p + 1) ∧
      (∀ id < t.size, t.rootOf id = root) ∧
      ∀ id < t.size, t.isLeaf id = true ↔ ∀ c < t.size, t.parent? c ≠ some id := by
  have hwf := ht.wellFormed
  refine ⟨hwf.size_pos, fun id hid => hwf.parent?_eq_none_iff hid, fun id p hp => hwf.parent_lt hp,
    fun p id => ⟨hwf.mem_children_iff, hwf.count_children p id⟩,
    fun p => ⟨hwf.pairwise_children p, fun c hc => hwf.lt_size_of_mem_children hc⟩,
    fun id hid => ⟨hwf.climbs id hid, hwf.pairwise_lineage id hid, ?_⟩,
    ⟨hwf.depth_root, fun id p hp => hwf.depth_of_parent? hp⟩,
    fun id hid => hwf.rootOf_eq hid, fun id _ => hwf.isLeaf_iff id⟩
  by_cases hroot : id = root
  · rw [if_pos hroot, hroot, hwf.ancestors_root]
    rfl
  · rw [if_neg hroot, hwf.getLast?_ancestors hid hroot]

/-- A root with two nodes under it, two more under the first of these, and what two refused calls
have left of it. -/
def grownTree : Tree :=
  let node : Node := default
  let t := ((singleton node).appendList 0 [node, node]).2
  let t := ((t.append 3 node).2.appendList 1 [node, node]).2
  (t.appendList 9 [node]).2

theorem grownTree_reachable : grownTree.Reachable :=
  ((((Reachable.singleton _).appendList _ _).append _ _).appendList _ _).appendList _ _

theorem links_of_reachable_grownTree :
    grownTree.Reachable ∧ grownTree.size = 5 ∧ grownTree.children 1 = [3, 4] ∧
      grownTree.Climbs (some 1) [1, 0] ∧ grownTree.rootOf 4 = root ∧
      (grownTree.isLeaf 4 = true ↔ ∀ c < grownTree.size, grownTree.parent? c ≠ some 4) := by
  have hlinks := links_of_reachable grownTree_reachable
  have hlt : 4 < grownTree.size := by decide
  obtain ⟨-, -, -, -, -, hclimbs, -, hroot, hleaf⟩ := hlinks
  exact ⟨grownTree_reachable, by decide, by decide, (hclimbs 4 hlt).1, hroot 4 hlt, hleaf 4 hlt⟩

end LexTree.Tree
