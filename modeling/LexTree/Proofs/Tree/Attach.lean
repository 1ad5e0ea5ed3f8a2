import LexTree.Proofs.Tree.Subtree

/-!
# What attaching a node changes

A node is attached at the end of one list of children. All walks change by the one
place of the new node, or not at all.

- `Tree.Attached` says what is in the cells of a tree with one node more.
- `WellFormed.exists_block_grow`: where the preorder changes.
- `Tree.attachAll` attaches nodes one after the other, and
  `WellFormed.appendList_of_lt` says that one call for all of them does the same.
- `append_of_reachable`: cells, walks and answers of such calls on a reachable tree.
-/

namespace LexTree.Tree

variable {t : Tree} {p q id : Nat} {node : Node}

/-! ## Cells -/

/-- `u` is `t` with `node` attached to `p`: there is a cell for it at the end, and of the old ones
only that of `p` is different, and only in that the new id ends its list of children. -/
structure Attached (t : Tree) (p : NodeId) (node : Node) (u : Tree) : Prop where
  size_eq : u.size = t.size + 1
  get?_new : u.get? t.size = some ⟨node, some p, #[]⟩
  get?_parent : u.get? p =
    (t.get? p).map fun cell => { cell with children := cell.children.push t.size }
  get?_other : ∀ q < t.size, q ≠ p → u.get? q = t.get? q

theorem attached_grow (hp : p < t.size) (node : Node) : t.Attached p node (t.grow p node) where
  size_eq := size_grow hp
  get?_new := by rw [get?_grow hp, if_pos rfl]
  get?_parent := by rw [get?_grow hp, if_neg (Nat.ne_of_lt hp), if_pos rfl]
  get?_other q hq hne := by rw [get?_grow hp, if_neg (Nat.ne_of_lt hq), if_neg hne]

/-! ## Walks -/

namespace WellFormed

/-- What changes in the preorder of the root changes within the blocks of `p` and of its
ancestors. -/
theorem exists_block_grow (ht : t.WellFormed) (hp : p < t.size) (node : Node) :
    ∀ id < t.size, id ∈ t.lineage p → ∃ before after,
      t.preorder root 0 = before ++ t.preorder id (t.depth id) ++ after ∧
        (t.grow p node).preorder root 0 =
          before ++ (t.grow p node).preorder id (t.depth id) ++ after := by
  refine ht.induction (fun _ => ⟨[], [], ?_, ?_⟩) fun id q hq ih hmem => ?_
  · rw [ht.depth_root, List.nil_append, List.append_nil]
  · rw [ht.depth_root, List.nil_append, List.append_nil]
  · have hancestor : q ∈ t.ancestors p := ht.parent_mem_ancestors hq p hp hmem
    obtain ⟨before, after, hold, hnew⟩ := ih (List.mem_cons_of_mem _ hancestor)
    obtain ⟨older, younger, hchildren⟩ := List.append_of_mem (ht.mem_children_iff.mpr hq)
    have hlt : q < p := ht.lt_of_mem_ancestors p hp hancestor
    have hqsize : q < t.size := Nat.lt_trans hlt hp
    have hqgrown : q < (t.grow p node).size := by
      rw [size_grow hp]
      omega
    -- An ancestor of `p` has the children that it had, and `id` is among them.
    have hgrown : (t.grow p node).children q = older ++ id :: younger := by
      rw [children_grow hp, if_neg (Nat.ne_of_lt hlt), hchildren]
    obtain ⟨holder, hyounger⟩ :=
      ht.preorder_grow_siblings hp node hmem hq hchildren (t.depth id)
    rw [ht.preorder_of_children_eq hqsize hchildren, ← ht.depth_of_parent? hq] at hold
    rw [(ht.grow hp node).preorder_of_children_eq hqgrown hgrown, ← ht.depth_of_parent? hq,
      holder, hyounger] at hnew
    refine ⟨before ++ (q, t.depth q) :: older.flatMap (t.preorder · (t.depth id)),
      younger.flatMap (t.preorder · (t.depth id)) ++ after, ?_, ?_⟩
    · rw [hold]
      simp only [List.append_assoc, List.cons_append]
    · rw [hnew]
      simp only [List.append_assoc, List.cons_append]

/-- The new node comes right after the block of `p` in the walk, one level below `p`. -/
theorem exists_walk_grow (ht : t.WellFormed) (hp : p < t.size) (node : Node) :
    ∃ before after,
      t.walk.toList = before ++ t.preorder p (t.depth p) ++ after ∧
        (t.grow p node).walk.toList =
          before ++ t.preorder p (t.depth p) ++ (t.size, t.depth p + 1) :: after := by
  obtain ⟨before, after, hold, hnew⟩ := ht.exists_block_grow hp node p hp List.mem_cons_self
  refine ⟨before, after, ht.toList_walk.trans hold, ?_⟩
  rw [(ht.grow hp node).toList_walk, hnew, ht.preorder_grow_self hp]
  simp only [List.append_assoc, List.singleton_append]

/-- The walk from `q` does not change if `q` is neither `p` nor an ancestor of it. -/
theorem walkFrom_grow (ht : t.WellFormed) (hp : p < t.size) (hq : q < t.size)
    (hmem : q ∉ t.lineage p) : (t.grow p node).walkFrom q = t.walkFrom q := by
  have hqgrown : q < (t.grow p node).size := by
    rw [size_grow hp]
    omega
  rw [← Array.toList_inj, (ht.grow hp node).toList_walkFrom hqgrown, ht.toList_walkFrom hq,
    ht.preorder_grow_of_not_mem hp hq hmem]

end WellFormed

/-! ## Several nodes -/

/-- The tree with `nodes` attached to `p` one after the other. -/
def attachAll (t : Tree) (p : NodeId) (nodes : List Node) : Tree :=
  nodes.foldl (fun u node => (u.append p node).2) t

theorem attachAll_cons (hp : p < t.size) (node : Node) (nodes : List Node) :
    t.attachAll p (node :: nodes) = (t.grow p node).attachAll p nodes := by
  rw [attachAll, List.foldl_cons, append_of_lt hp, attachAll]

theorem size_attachAll (hp : p < t.size) (nodes : List Node) :
    (t.attachAll p nodes).size = t.size + nodes.length := by
  induction nodes generalizing t with
  | nil => rfl
  | cons node nodes ih =>
    have hsize : (t.grow p node).size = t.size + 1 := size_grow hp
    rw [attachAll_cons hp, ih (by omega), hsize, List.length_cons]
    omega

/-- `appendList` attaches one after the other, and answers with the ids in order. -/
theorem appendList_of_lt (hp : p < t.size) (nodes : List Node) :
    t.appendList p nodes = (.ok (List.range' t.size nodes.length), t.attachAll p nodes) := by
  induction nodes generalizing t with
  | nil => rfl
  | cons node nodes ih =>
    have hsize : (t.grow p node).size = t.size + 1 := size_grow hp
    have hnext := ih (t := t.grow p node) (by omega)
    rw [appendList, append_of_lt hp]
    dsimp only
    rw [hnext, hsize, attachAll_cons hp, List.length_cons, List.range'_succ]
    rfl

/-- Each of the calls that `attachAll` makes answers with the id that comes next. -/
theorem append_attachAll (hp : p < t.size) (nodes : List Node) (node : Node) :
    ((t.attachAll p nodes).append p node).1 = .ok (t.size + nodes.length) := by
  have hsize := size_attachAll hp nodes
  rw [append_of_lt (show p < (t.attachAll p nodes).size by omega), hsize]

/-- `appendList` is refused at the first node if `p` is not there. -/
theorem appendList_of_size_le (hp : t.size ≤ p) (node : Node) (nodes : List Node) :
    t.appendList p (node :: nodes) = (.error (.unknownNode p), t) := by
  rw [appendList, append_of_size_le hp]

/-! ## All together -/

/-- A node that `append` attaches to `p` has the next id. Of the old cells only that of `p` is
different, by the new id at the end of its children. In `walk` the new node stands right after the
block of `p`, one level below it, and nothing else moves; walks from nodes other than `p` and its
ancestors are what they were. `appendList` attaches `nodes` one after the other, which answers with
ids in order. A parent `p` that is not in the tree is refused, and the tree is then as it was. -/
theorem append_of_reachable (ht : t.Reachable) (p : NodeId) (node : Node) (nodes : List Node) :
    (p < t.size →
      (t.append p node).1 = .ok t.size ∧
        t.Attached p node (t.append p node).2 ∧
        (∃ before after : List (NodeId × Nat),
          let block := (t.walkFrom p).toList.map fun x => (x.1, x.2 + t.depth p)
          t.walk.toList = before ++ block ++ after ∧
            (t.append p node).2.walk.toList =
              before ++ block ++ (t.size, t.depth p + 1) :: after) ∧
        (∀ q < t.size, q ≠ p → q ∉ t.ancestors p →
          (t.append p node).2.walkFrom q = t.walkFrom q) ∧
        t.appendList p nodes = (.ok (List.range' t.size nodes.length), t.attachAll p nodes) ∧
        ∀ earlier next later, nodes = earlier ++ next :: later →
          ((t.attachAll p earlier).append p next).1 = .ok (t.size + earlier.length)) ∧
    (t.size ≤ p →
      t.append p node = (.error (.unknownNode p), t) ∧
        t.appendList p (node :: nodes) = (.error (.unknownNode p), t)) := by
  have hwf := ht.wellFormed
  refine ⟨fun hp => ?_, fun hp => ⟨append_of_size_le hp, appendList_of_size_le hp node nodes⟩⟩
  have hblock : (t.walkFrom p).toList.map (fun x => (x.1, x.2 + t.depth p)) =
      t.preorder p (t.depth p) := by
    rw [hwf.toList_walkFrom hp, ← hwf.preorder_add p hp, Nat.zero_add]
  rw [hblock, append_of_lt hp]
  refine ⟨rfl, attached_grow hp node, hwf.exists_walk_grow hp node, fun q hq hne hmem => ?_,
    appendList_of_lt hp nodes, fun earlier next _ _ => append_attachAll hp earlier next⟩
  refine hwf.walkFrom_grow hp hq fun hlineage => ?_
  rcases List.mem_cons.mp hlineage with heq | hancestor
  · exact hne heq
  · exact hmem hancestor

/-- The parent is a child of the root that is not its last. Of a node that is not in the tree the
calls are refused. -/
theorem append_of_reachable_grownTree :
    grownTree.Reachable ∧ 1 < grownTree.size ∧ grownTree.size ≤ 9 ∧
      (grownTree.append 1 default).1 = .ok 5 ∧
      (grownTree.append 1 default).2.walk = #[(0, 0), (1, 1), (3, 2), (4, 2), (5, 2), (2, 1)] ∧
      (grownTree.append 1 default).2.walkFrom 2 = grownTree.walkFrom 2 ∧
      (grownTree.appendList 1 [default, default]).1 = .ok [5, 6] ∧
      grownTree.append 9 default = (.error (.unknownNode 9), grownTree) := by
  have hlt : 1 < grownTree.size := by decide
  have hge : grownTree.size ≤ 9 := by decide
  obtain ⟨hattached, -⟩ := append_of_reachable grownTree_reachable 1 default [default, default]
  obtain ⟨hid, -, -, hwalk, hlist, -⟩ := hattached hlt
  obtain ⟨-, hrefused⟩ := append_of_reachable grownTree_reachable 9 default []
  refine ⟨grownTree_reachable, hlt, hge, hid, by decide, ?_, ?_, (hrefused hge).1⟩
  · exact hwalk 2 (by decide) (by decide) (by decide)
  · rw [hlist]
    rfl

end LexTree.Tree
