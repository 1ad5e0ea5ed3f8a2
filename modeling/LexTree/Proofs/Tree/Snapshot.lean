import LexTree.Proofs.Tree.Rose
import LexTree.Tree.Snapshot

/-!
# Snapshots and trees

A snapshot tells a tree in an arena as far as documents show its nodes, unless it
was cut off.

- `Node.shown` is what documents show of a node, and `Snapshot.rose` the tree of
  these that a snapshot is.
- `WellFormed.height_le_iff`: the height of a node by the depths in its subtree,
  and `WellFormed.height_le_iff_forall_children` by the heights of its children.
- `WellFormed.unfolds_nest`: nesting to the height of a node gives its subtree.
- `WellFormed.shownWalk_eq`: the walk lists what the subtree of the root lists.
-/

namespace LexTree

/-- What documents show of the node `n`. -/
def Node.shown (n : Node) : NodeType × String × Span := (n.type, n.render, n.span)

namespace Snapshot

mutual

/-- The tree that a snapshot is. -/
def rose : Snapshot → Rose (NodeType × String × Span)
  | node type value span children => .node (⟨type⟩, value, span) (roses children)

/-- The trees that snapshots next to each other are. -/
def roses : List Snapshot → List (Rose (NodeType × String × Span))
  | [] => []
  | s :: rest => rose s :: roses rest

end

theorem roses_eq_map (snapshots : List Snapshot) : roses snapshots = snapshots.map rose := by
  induction snapshots with
  | nil => rw [roses, List.map_nil]
  | cons s rest ih => rw [roses, ih, List.map_cons]

end Snapshot

namespace Tree

variable {t : Tree} {id : Nat} {α : Type} {label : Node → α}

/-- What documents show of all nodes of `t`, with their depths, in the order of the walk. -/
def shownWalk (t : Tree) : List (Nat × NodeType × String × Span) :=
  t.walk.toList.map fun x => (x.2, (t.nodeAt x.1).shown)

theorem node?_eq_nodeAt (hid : id < t.size) : t.node? id = some (t.nodeAt id) := by
  obtain ⟨cell, hcell⟩ := exists_get? hid
  rw [node?, nodeAt, hcell]
  rfl

/-! ## Only one tree is under a node -/

mutual

theorem Unfolds.unique {id : NodeId} : ∀ {x y : Rose α}, t.Unfolds label id x →
    t.Unfolds label id y → x = y
  | .node a xs, .node b ys, hx, hy => by
    cases hx with
    | node hnode hxs =>
      cases hy with
      | node hnode' hys =>
        obtain rfl := Option.some.inj (hnode.symm.trans hnode')
        rw [unfolds_unique hxs hys]

theorem unfolds_unique : ∀ {ids : List NodeId} {xs ys : List (Rose α)},
    List.Forall₂ (t.Unfolds label) ids xs → List.Forall₂ (t.Unfolds label) ids ys → xs = ys
  | [], [], [], _, _ => rfl
  | _ :: _, _ :: _, _ :: _, .cons hx hxs, .cons hy hys => by
    rw [hx.unique hy, unfolds_unique hxs hys]

end

namespace WellFormed

/-- The preorder of `id` lists the tree `x` under it. -/
theorem map_labelAt?_preorder (ht : t.WellFormed) (hid : id < t.size) {x : Rose α}
    (hx : t.Unfolds label id x) (d : Nat) :
    (t.preorder id d).map (t.labelAt? label) = (x.flatten d).map some := by
  obtain ⟨y, hy, hpreorder⟩ := ht.exists_unfolds label id hid
  obtain rfl := hx.unique hy
  exact hpreorder d

/-- What documents show of the nodes in the preorder of `id` is what the tree `x` under it lists. -/
theorem map_shown_preorder (ht : t.WellFormed) (hid : id < t.size)
    {x : Rose (NodeType × String × Span)} (hx : t.Unfolds Node.shown id x) (d : Nat) :
    (t.preorder id d).map (fun entry => ((t.nodeAt entry.1).shown, entry.2)) = x.flatten d := by
  have hlabel : ∀ entry ∈ t.preorder id d,
      t.labelAt? Node.shown entry = some ((t.nodeAt entry.1).shown, entry.2) := by
    rintro ⟨c, e⟩ hentry
    have hc := ((ht.mem_preorder_iff id hid c d e).mp hentry).1
    rw [labelAt?, entryAt?, node?_eq_nodeAt hc]
    rfl
  have hsome : Function.Injective
      (some : (NodeType × String × Span) × Nat → Option ((NodeType × String × Span) × Nat)) :=
    fun _ _ h => Option.some.inj h
  refine List.map_injective_iff.mpr hsome ?_
  rw [List.map_map, ← ht.map_labelAt?_preorder hid hx d]
  exact (List.map_congr_left hlabel).symm

theorem shownWalk_eq (ht : t.WellFormed) {x : Rose (NodeType × String × Span)}
    (hx : t.Unfolds Node.shown root x) :
    t.shownWalk = (x.flatten 0).map fun entry => (entry.2, entry.1) := by
  rw [shownWalk, ht.toList_walk, ← ht.map_shown_preorder ht.size_pos hx 0, List.map_map]
  rfl

/-! ## Nesting -/

theorem height_le_iff (ht : t.WellFormed) (hid : id < t.size) (n : Nat) :
    t.height id ≤ n ↔ ∀ x < t.size, id ∈ t.lineage x → t.depth x ≤ t.depth id + n := by
  have hfoldl : ∀ (entries : List (NodeId × Nat)) (h : Nat),
      entries.foldl (fun h x => max h x.2) h ≤ n ↔ h ≤ n ∧ ∀ x ∈ entries, x.2 ≤ n := by
    intro entries
    induction entries with
    | nil => intro h; simp
    | cons x entries ih =>
      intro h
      rw [List.foldl_cons, ih, List.forall_mem_cons, Nat.max_le, and_assoc]
  have hheight : t.height id = (t.preorder id 0).foldl (fun h x => max h x.2) 0 := by
    rw [height, ← Array.foldl_toList, ht.toList_walkFrom hid]
  rw [hheight, hfoldl]
  constructor
  · rintro ⟨-, h⟩ x hx hmem
    have hle := ht.depth_le_of_mem_lineage x hx hmem
    have hentry : (x, t.depth x - t.depth id) ∈ t.preorder id 0 :=
      (ht.mem_preorder_iff id hid x 0 _).mpr ⟨hx, hmem, by omega⟩
    have := h _ hentry
    omega
  · refine fun h => ⟨Nat.zero_le n, ?_⟩
    rintro ⟨x, e⟩ hentry
    obtain ⟨hx, hmem, hdepth⟩ := (ht.mem_preorder_iff id hid x 0 e).mp hentry
    have := h x hx hmem
    omega

/-- `height` is one more than that of the children at least. -/
theorem height_le_iff_forall_children (ht : t.WellFormed) (hid : id < t.size) (n : Nat) :
    t.height id ≤ n ↔ ∀ c ∈ t.children id, t.height c + 1 ≤ n := by
  rw [ht.height_le_iff hid]
  constructor
  · intro h c hc
    have hparent := ht.mem_children_iff.mp hc
    have hsize := ht.lt_size_of_mem_children hc
    have hdepth := ht.depth_of_parent? hparent
    have habove : ∀ x < t.size, c ∈ t.lineage x → t.depth x ≤ t.depth id + n := fun x hx hmem =>
      h x hx (List.mem_cons_of_mem _ (ht.parent_mem_ancestors hparent x hx hmem))
    have hself : t.depth c ≤ t.depth id + n := habove c hsize List.mem_cons_self
    have hheight : t.height c ≤ n - 1 := by
      refine (ht.height_le_iff hsize _).mpr fun x hx hmem => ?_
      have := habove x hx hmem
      omega
    omega
  · intro h x hx hmem
    rcases List.mem_cons.mp hmem with rfl | hmem
    · exact Nat.le_add_right _ _
    · obtain ⟨c, hc, hcmem⟩ := ht.exists_child_of_mem_ancestors x hx hmem
      have hsize := ht.lt_size_of_mem_children hc
      have hdepth := ht.depth_of_parent? (ht.mem_children_iff.mp hc)
      have hone : t.height c + 1 ≤ n := h c hc
      have hle := (ht.height_le_iff hsize (n - 1)).mp (by omega) x hx hcmem
      omega

/-- `nest levels id` leaves nothing out if no node under `id` is more than `levels` below it. -/
theorem unfolds_nest (ht : t.WellFormed) (levels : Nat) : ∀ id < t.size,
    (∀ x < t.size, id ∈ t.lineage x → t.depth x ≤ t.depth id + levels) →
    t.Unfolds Node.shown id (t.nest levels id).rose := by
  induction levels with
  | zero =>
    intro id hid hdepth
    have hnone : t.children id = [] := by
      refine List.eq_nil_iff_forall_not_mem.mpr fun c hc => ?_
      have hparent := ht.mem_children_iff.mp hc
      have hle := hdepth c (ht.lt_size_of_mem_children hc)
        (by rw [ht.lineage_of_parent? hparent]; exact List.mem_cons_of_mem _ List.mem_cons_self)
      rw [ht.depth_of_parent? hparent] at hle
      omega
    rw [nest, Snapshot.rose, Snapshot.roses]
    exact .node (node?_eq_nodeAt hid) (hnone ▸ .nil)
  | succ levels ih =>
    intro id hid hdepth
    -- Children are a level deeper, so that the bound holds of them with one level less.
    have hchildren : ∀ c ∈ t.children id, t.Unfolds Node.shown c (t.nest levels c).rose := by
      intro c hc
      have hparent := ht.mem_children_iff.mp hc
      refine ih c (ht.lt_size_of_mem_children hc) fun x hx hmem => ?_
      have hle := hdepth x hx (List.mem_cons_of_mem _ (ht.parent_mem_ancestors hparent x hx hmem))
      rw [ht.depth_of_parent? hparent]
      omega
    rw [nest, Snapshot.rose, Snapshot.roses_eq_map, List.map_map]
    refine .node (node?_eq_nodeAt hid) (List.forall₂_map_right_iff.mpr ?_)
    exact List.forall₂_same.mpr hchildren

/-- A node of at most `maxSnapshotNesting` levels has a `snapshot`, and that is the subtree under
it. -/
theorem exists_snapshot_of_height_le (ht : t.WellFormed) (hid : id < t.size)
    (h : t.height id ≤ maxSnapshotNesting) :
    ∃ s, t.snapshot id = .ok s ∧ t.Unfolds Node.shown id s.rose := by
  refine ⟨t.nest maxSnapshotNesting id, ?_,
    ht.unfolds_nest _ id hid ((ht.height_le_iff hid _).mp h)⟩
  rw [snapshot]
  exact if_neg (Nat.not_lt.mpr h)

/-- The `height` of the root is the greatest `depth`. -/
theorem height_root_le_iff (ht : t.WellFormed) (n : Nat) :
    t.height root ≤ n ↔ ∀ id < t.size, t.depth id ≤ n := by
  have hroot : root < t.size := ht.size_pos
  rw [ht.height_le_iff hroot, ht.depth_root, Nat.zero_add]
  exact ⟨fun h id hid => h id hid (ht.root_mem_lineage hid), fun h id hid _ => h id hid⟩

/-- A tree of at most `maxSnapshotNesting` levels has a `snapshot`, and that is the tree. -/
theorem exists_snapshot (ht : t.WellFormed)
    (hdepth : ∀ id < t.size, t.depth id ≤ maxSnapshotNesting) :
    ∃ s, t.snapshot root = .ok s ∧ t.Unfolds Node.shown root s.rose :=
  ht.exists_snapshot_of_height_le ht.size_pos ((ht.height_root_le_iff _).mpr hdepth)

end WellFormed

end Tree

end LexTree
