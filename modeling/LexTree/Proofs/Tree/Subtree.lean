import LexTree.Proofs.Tree.Preorder
import LexTree.Proofs.Tree.Reachable
import Mathlib.Data.List.Nodup
import Mathlib.Data.List.Perm.Subperm

/-!
# Subtrees and the walk

The walk goes down with a stack, and depths are counted by climbing up. The two
agree on what a subtree is.

- `WellFormed.mem_preorder_iff`: a preorder holds the nodes that have its first
  one in their lineage, with their depths counted from there.
- `WellFormed.nodup_preorder` holds each of them once, so that no walk is cut off
  by the number of its steps (`WellFormed.toList_walkFrom`).
- `Tree.Walks` is the walk without such a number, and `WellFormed.walks` says
  that it ends.
- `WellFormed.exists_block`: the preorder of a node is a block of the root's.
- `walkFrom_of_reachable`: the walk through a subtree of a reachable tree.
-/

namespace LexTree.Tree

variable {t : Tree} {id : Nat}

/-! ## Lineages and depths -/

namespace WellFormed

/-- What holds of a node whenever it holds of its children holds of all nodes. -/
theorem downward_induction (ht : t.WellFormed) {P : Nat → Prop}
    (h : ∀ id < t.size, (∀ c ∈ t.children id, P c) → P id) : ∀ id < t.size, P id := by
  intro id hid
  generalize hn : t.size - id = n
  induction n using Nat.strongRecOn generalizing id with
  | ind n ih =>
    refine h id hid fun c hc => ?_
    have hlt := ht.parent_lt (ht.mem_children_iff.mp hc)
    have hsize := ht.lt_size_of_mem_children hc
    exact ih (t.size - c) (by omega) c hsize rfl

/-- The way from `x` up to an ancestor `id` goes through one of the children of `id`. -/
theorem exists_child_of_mem_ancestors (ht : t.WellFormed) :
    ∀ x < t.size, id ∈ t.ancestors x → ∃ c ∈ t.children id, c ∈ t.lineage x := by
  refine ht.induction (fun hmem => ?_) fun x p hp ih hmem => ?_
  · rw [ht.ancestors_root] at hmem
    cases hmem
  · rw [ht.ancestors_of_parent? hp] at hmem
    rcases List.mem_cons.mp hmem with rfl | hmem
    · exact ⟨x, ht.mem_children_iff.mpr hp, List.mem_cons_self⟩
    · obtain ⟨c, hc, hcmem⟩ := ih hmem
      rw [ht.lineage_of_parent? hp]
      exact ⟨c, hc, List.mem_cons_of_mem _ hcmem⟩

theorem root_mem_lineage (ht : t.WellFormed) (hid : id < t.size) : root ∈ t.lineage id :=
  List.mem_of_getLast? (ht.getLast?_lineage id hid)

theorem depth_le_of_mem_lineage (ht : t.WellFormed) :
    ∀ x < t.size, id ∈ t.lineage x → t.depth id ≤ t.depth x := by
  refine ht.induction (fun hmem => ?_) fun x p hp ih hmem => ?_
  · rw [lineage, ht.ancestors_root] at hmem
    exact Nat.le_of_eq (congrArg t.depth (List.mem_singleton.mp hmem))
  · rw [ht.lineage_of_parent? hp] at hmem
    have hdepth := ht.depth_of_parent? hp
    rcases List.mem_cons.mp hmem with rfl | hmem
    · exact Nat.le_refl _
    · have := ih hmem
      omega

/-! ## What a preorder holds -/

/-- The preorder of `id` holds the nodes that have `id` in their lineage, with their depths counted
from there. -/
theorem mem_preorder_iff (ht : t.WellFormed) : ∀ id < t.size, ∀ x d e : Nat,
    (x, e) ∈ t.preorder id d ↔
      x < t.size ∧ id ∈ t.lineage x ∧ t.depth x + d = t.depth id + e := by
  refine ht.downward_induction fun id hid ih x d e => ?_
  rw [ht.preorder_eq hid, List.mem_cons, List.mem_flatMap]
  constructor
  · rintro (heq | ⟨c, hc, hx⟩)
    · cases heq
      exact ⟨hid, List.mem_cons_self, rfl⟩
    · obtain ⟨hx, hmem, hdepth⟩ := (ih c hc x (d + 1) e).mp hx
      have hparent := ht.mem_children_iff.mp hc
      have hone := ht.depth_of_parent? hparent
      exact ⟨hx, List.mem_cons_of_mem _ (ht.parent_mem_ancestors hparent x hx hmem), by omega⟩
  · rintro ⟨hx, hmem, hdepth⟩
    rcases List.mem_cons.mp hmem with rfl | hmem
    · exact .inl (by rw [Nat.add_left_cancel hdepth])
    · obtain ⟨c, hc, hcmem⟩ := ht.exists_child_of_mem_ancestors x hx hmem
      have hone := ht.depth_of_parent? (ht.mem_children_iff.mp hc)
      exact .inr ⟨c, hc, (ih c hc x (d + 1) e).mpr ⟨hx, hcmem, by omega⟩⟩

theorem mem_map_fst_preorder_iff (ht : t.WellFormed) (hid : id < t.size) (d x : Nat) :
    x ∈ (t.preorder id d).map (·.1) ↔ x < t.size ∧ id ∈ t.lineage x := by
  constructor
  · intro hmem
    obtain ⟨⟨x, e⟩, hentry, rfl⟩ := List.mem_map.mp hmem
    obtain ⟨hx, hlineage, -⟩ := (ht.mem_preorder_iff id hid x d e).mp hentry
    exact ⟨hx, hlineage⟩
  · rintro ⟨hx, hlineage⟩
    have hle := ht.depth_le_of_mem_lineage x hx hlineage
    have hmem : (x, t.depth x - t.depth id + d) ∈ t.preorder id d :=
      (ht.mem_preorder_iff id hid x d _).mpr ⟨hx, hlineage, by omega⟩
    exact List.mem_map_of_mem hmem

/-- No node comes twice in a preorder: not below itself, and not below two siblings. -/
theorem nodup_preorder (ht : t.WellFormed) :
    ∀ id < t.size, ∀ d : Nat, ((t.preorder id d).map (·.1)).Nodup := by
  refine ht.downward_induction fun id hid ih d => ?_
  rw [ht.preorder_eq hid, List.map_cons, List.map_flatMap, List.nodup_cons, List.nodup_flatMap]
  have hlineage : ∀ c ∈ t.children id, ∀ x ∈ (t.preorder c (d + 1)).map (·.1),
      x < t.size ∧ c ∈ t.lineage x := fun c hc x hx =>
    (ht.mem_map_fst_preorder_iff (ht.lt_size_of_mem_children hc) (d + 1) x).mp hx
  refine ⟨fun hmem => ?_, fun c hc => ih c hc _, ?_⟩
  · obtain ⟨c, hc, hmem⟩ := List.mem_flatMap.mp hmem
    have hle := ht.le_of_mem_lineage hid (hlineage c hc id hmem).2
    have hlt := ht.parent_lt (ht.mem_children_iff.mp hc)
    omega
  · refine (ht.pairwise_children id).imp_of_mem fun {b c} hb hc hlt x hxb hxc => ?_
    obtain ⟨hx, hbmem⟩ := hlineage b hb x hxb
    have hcmem := (hlineage c hc x hxc).2
    exact Nat.ne_of_lt hlt (ht.eq_of_mem_lineage (ht.mem_children_iff.mp hb)
      (ht.mem_children_iff.mp hc) x hx hbmem hcmem)

theorem length_preorder_le (ht : t.WellFormed) (hid : id < t.size) (d : Nat) :
    (t.preorder id d).length ≤ t.size := by
  have hsub : (t.preorder id d).map (·.1) ⊆ List.range t.size := fun x hx =>
    List.mem_range.mpr ((ht.mem_map_fst_preorder_iff hid d x).mp hx).1
  have hle := ((ht.nodup_preorder id hid d).subperm hsub).length_le
  rwa [List.length_map, List.length_range] at hle

/-- Counting depths from `d + k` moves all of them by `k`. -/
theorem preorder_add (ht : t.WellFormed) : ∀ id < t.size, ∀ d k : Nat,
    t.preorder id (d + k) = (t.preorder id d).map fun x => (x.1, x.2 + k) := by
  refine ht.downward_induction fun id hid ih d k => ?_
  rw [ht.preorder_eq hid, ht.preorder_eq hid, List.map_cons, List.map_flatMap]
  congr 1
  refine List.flatMap_congr fun c hc => ?_
  rw [← ih c hc, Nat.add_right_comm]

/-- The preorder of `p` has that of each child `id` as a block. -/
theorem preorder_of_children_eq (ht : t.WellFormed) {p : Nat} (hp : p < t.size)
    {older younger : List NodeId} (hchildren : t.children p = older ++ id :: younger) (d : Nat) :
    t.preorder p d = (p, d) :: older.flatMap (t.preorder · (d + 1)) ++ t.preorder id (d + 1) ++
      younger.flatMap (t.preorder · (d + 1)) := by
  rw [ht.preorder_eq hp, hchildren, List.flatMap_append, List.flatMap_cons]
  simp only [List.append_assoc, List.cons_append]

/-- The preorder of `id` is a block of the root's. -/
theorem exists_block (ht : t.WellFormed) : ∀ id < t.size, ∃ before after,
    t.preorder root 0 = before ++ t.preorder id (t.depth id) ++ after := by
  refine ht.induction ⟨[], [], ?_⟩ fun id p hp ⟨before, after, hblock⟩ => ?_
  · rw [ht.depth_root, List.nil_append, List.append_nil]
  · have hpsize := Nat.lt_trans (ht.parent_lt hp) (lt_size_of_parent? hp)
    obtain ⟨older, younger, hchildren⟩ := List.append_of_mem (ht.mem_children_iff.mpr hp)
    rw [ht.preorder_of_children_eq hpsize hchildren, ← ht.depth_of_parent? hp] at hblock
    refine ⟨before ++ (p, t.depth p) :: older.flatMap (t.preorder · (t.depth id)),
      younger.flatMap (t.preorder · (t.depth id)) ++ after, ?_⟩
    rw [hblock]
    simp only [List.append_assoc, List.cons_append]

end WellFormed

/-! ## The walk -/

/-- What a walk yields that has `stack` left: the node on top, and what the walk yields that has its
children on the stack instead. -/
inductive Walks (t : Tree) : List (NodeId × Nat) → List (NodeId × Nat) → Prop where
  | done : Walks t [] []
  | step {id : NodeId} {depth : Nat} {stack visited : List (NodeId × Nat)} :
      Walks t ((t.children id).map (·, depth + 1) ++ stack) visited →
      Walks t ((id, depth) :: stack) ((id, depth) :: visited)

/-- Siblings `cs` on a stack are walked one after the other, if each of them is walked before what
is below it. -/
theorem Walks.siblings {cs : List NodeId} {d : Nat}
    (hcs : ∀ c ∈ cs, ∀ stack visited, t.Walks stack visited →
      t.Walks ((c, d) :: stack) (t.preorder c d ++ visited))
    {stack visited : List (NodeId × Nat)} (h : t.Walks stack visited) :
    t.Walks (cs.map (·, d) ++ stack) (cs.flatMap (t.preorder · d) ++ visited) := by
  induction cs with
  | nil => exact h
  | cons c cs ih =>
    obtain ⟨hc, hcs⟩ := List.forall_mem_cons.mp hcs
    rw [List.map_cons, List.flatMap_cons, List.cons_append, List.append_assoc]
    exact hc _ _ (ih hcs)

namespace WellFormed

/-- The subtree of the node `id` on top of `stack` is walked before what is below it. -/
theorem walks_cons (ht : t.WellFormed) : ∀ id < t.size, ∀ (d : Nat)
    (stack visited : List (NodeId × Nat)), t.Walks stack visited →
      t.Walks ((id, d) :: stack) (t.preorder id d ++ visited) := by
  refine ht.downward_induction fun id hid ih d stack visited h => ?_
  rw [ht.preorder_eq hid, List.cons_append]
  exact .step (Walks.siblings (fun c hc => ih c hc (d + 1)) h)

/-- The walk from `id` ends, and has yielded its preorder. -/
theorem walks (ht : t.WellFormed) (hid : id < t.size) (d : Nat) :
    t.Walks [(id, d)] (t.preorder id d) := by
  have h := ht.walks_cons id hid d [] [] .done
  rwa [List.append_nil] at h

/-- `walkFrom` visits no more nodes than there are, so that it is never cut off. -/
theorem toList_walkFrom (ht : t.WellFormed) (hid : id < t.size) :
    (t.walkFrom id).toList = t.preorder id 0 := by
  have hstack : ∀ x ∈ [(id, 0)], x.1 < t.size := List.forall_mem_singleton.mpr hid
  rw [walkFrom, ht.walkStack_eq _ _ _ hstack, List.flatMap_singleton,
    List.take_of_length_le (ht.length_preorder_le hid 0), List.nil_append]

theorem toList_walk (ht : t.WellFormed) : t.walk.toList = t.preorder root 0 :=
  ht.toList_walkFrom ht.size_pos

/-- `walk` visits all nodes, each once. -/
theorem perm_walk (ht : t.WellFormed) :
    (t.walk.toList.map (·.1)).Perm (List.range t.size) := by
  have hroot : root < t.size := ht.size_pos
  rw [ht.toList_walk, List.perm_ext_iff_of_nodup (ht.nodup_preorder root hroot 0)
    List.nodup_range]
  intro x
  rw [ht.mem_map_fst_preorder_iff hroot, List.mem_range]
  exact ⟨fun h => h.1, fun hx => ⟨hx, ht.root_mem_lineage hx⟩⟩

end WellFormed

/-- `walkFrom id` in a reachable tree ends, and is the preorder of the subtree: `id`, and the
preorders of its children in order. It visits the nodes of which `id` is an ancestor, and `id`
itself, each once and with the difference of their depths. So `walk` visits all nodes once with
their depths, and has the walk from any node as a block, but for the depths counted from there. -/
theorem walkFrom_of_reachable (ht : t.Reachable) (hid : id < t.size) :
    t.Walks [(id, 0)] (t.walkFrom id).toList ∧
      (t.walkFrom id).toList = t.preorder id 0 ∧
      (∀ c < t.size, ∀ d : Nat, t.preorder c d =
        (c, d) :: (t.children c).flatMap fun b => t.preorder b (d + 1)) ∧
      ((t.walkFrom id).toList.map (·.1)).Nodup ∧
      (∀ x d : Nat, (x, d) ∈ (t.walkFrom id).toList ↔
        x < t.size ∧ id ∈ x :: t.ancestors x ∧ d = t.depth x - t.depth id) ∧
      (t.walk.toList.map (·.1)).Perm (List.range t.size) ∧
      (∀ x ∈ t.walk.toList, x.2 = t.depth x.1) ∧
      ∃ before after, t.walk.toList =
        before ++ (t.walkFrom id).toList.map (fun x => (x.1, x.2 + t.depth id)) ++ after := by
  have hwf := ht.wellFormed
  rw [hwf.toList_walkFrom hid]
  refine ⟨hwf.walks hid 0, rfl, fun c hc d => hwf.preorder_eq hc d, hwf.nodup_preorder id hid 0,
    fun x d => ?_, hwf.perm_walk, fun x hx => ?_, ?_⟩
  · rw [hwf.mem_preorder_iff id hid]
    refine and_congr_right fun hx => and_congr_right fun hmem => ?_
    have hle := hwf.depth_le_of_mem_lineage x hx hmem
    omega
  · rw [hwf.toList_walk, hwf.mem_preorder_iff root hwf.size_pos, hwf.depth_root] at hx
    omega
  · obtain ⟨before, after, hblock⟩ := hwf.exists_block id hid
    refine ⟨before, after, ?_⟩
    rw [hwf.toList_walk, hblock, ← hwf.preorder_add id hid, Nat.zero_add]

/-- The walk from a child of the root that is not its last. -/
theorem walkFrom_of_reachable_grownTree :
    grownTree.Reachable ∧ 1 < grownTree.size ∧
      grownTree.walkFrom 1 = #[(1, 0), (3, 1), (4, 1)] ∧
      grownTree.Walks [(1, 0)] [(1, 0), (3, 1), (4, 1)] ∧
      grownTree.walk = #[(0, 0), (1, 1), (3, 2), (4, 2), (2, 1)] ∧
      (grownTree.walk.toList.map (·.1)).Perm [0, 1, 2, 3, 4] := by
  have hlt : 1 < grownTree.size := by decide
  have hwalk := walkFrom_of_reachable grownTree_reachable hlt
  obtain ⟨hwalks, -, -, -, -, hperm, -, -⟩ := hwalk
  exact ⟨grownTree_reachable, hlt, by decide, hwalks, by decide, hperm⟩

end LexTree.Tree
