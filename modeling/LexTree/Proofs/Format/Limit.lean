import LexTree.Proofs.Json.Nesting
import Mathlib.Order.Bounds.Basic

/-!
# The limit on nesting

Whether a node is too high for a snapshot is told from a walk, and the snapshot is
built on the way down from children to children. Both go by the longest way down
from the node, and both find the same nodes in the same order.

- `Tree.Descends` are the ways down from a node, and `WellFormed.isGreatest_height`
  says that its height is the length of the longest.
- `WellFormed.map_shown_walkFrom`: what is found in a snapshot is what is found on
  the walk.
- `TreeFormat.Shows`: trees that a format shows.
- `snapshot_of_reachable`: snapshots of all nodes of a reachable tree, and the
  formats that are made of them.
-/

namespace LexTree

namespace Tree

variable {t : Tree} {id x n : Nat}

/-! ## Ways down -/

/-- Ways down from the node `id`, with where they lead and how many edges they have. -/
inductive Descends (t : Tree) (id : NodeId) : NodeId → Nat → Prop where
  | here : Descends t id id 0
  | down {x c : NodeId} {n : Nat} : Descends t id x n → c ∈ t.children x → Descends t id c (n + 1)

namespace WellFormed

/-- A way of `n` edges down from `id` leads to a node that has `id` in its lineage, and is `n`
deeper. -/
theorem mem_lineage_of_descends (ht : t.WellFormed) (hid : id < t.size) (h : t.Descends id x n) :
    x < t.size ∧ id ∈ t.lineage x ∧ t.depth x = t.depth id + n := by
  induction h with
  | here => exact ⟨hid, List.mem_cons_self, rfl⟩
  | down _ hc ih =>
    obtain ⟨-, hmem, hdepth⟩ := ih
    have hparent := ht.mem_children_iff.mp hc
    refine ⟨lt_size_of_parent? hparent, ?_, ?_⟩
    · rw [ht.lineage_of_parent? hparent]
      exact List.mem_cons_of_mem _ hmem
    · rw [ht.depth_of_parent? hparent, hdepth]
      omega

/-- From every `id` in the lineage of `x` a way leads down to `x`, with as many edges as their
depths are apart. -/
theorem descends_of_mem_lineage (ht : t.WellFormed) : ∀ x < t.size, ∀ n : Nat,
    id ∈ t.lineage x → t.depth x = t.depth id + n → t.Descends id x n := by
  have hself : ∀ n : Nat, t.depth id = t.depth id + n → t.Descends id id n := by
    intro n hn
    obtain rfl : n = 0 := by omega
    exact .here
  refine ht.induction (fun n hmem hdepth => ?_) fun x p hp ih n hmem hdepth => ?_
  · rw [lineage, ht.ancestors_root] at hmem
    obtain rfl := List.mem_singleton.mp hmem
    exact hself n hdepth
  · rw [ht.lineage_of_parent? hp] at hmem
    rcases List.mem_cons.mp hmem with rfl | hmem
    · exact hself n hdepth
    · have hpsize := Nat.lt_trans (ht.parent_lt hp) (lt_size_of_parent? hp)
      have hle := ht.depth_le_of_mem_lineage p hpsize hmem
      have hone := ht.depth_of_parent? hp
      obtain ⟨m, rfl⟩ : ∃ m, n = m + 1 := ⟨n - 1, by omega⟩
      exact .down (ih m hmem (by omega)) (ht.mem_children_iff.mpr hp)

/-- `height id` is the length of the longest way down from `id`. -/
theorem isGreatest_height (ht : t.WellFormed) (hid : id < t.size) :
    IsGreatest {n | ∃ x, t.Descends id x n} (t.height id) := by
  have hle := (ht.height_le_iff hid (t.height id)).mp (Nat.le_refl _)
  constructor
  · rcases Nat.eq_zero_or_pos (t.height id) with hzero | hpos
    · rw [hzero]
      exact ⟨id, .here⟩
    · -- No smaller number bounds the depths, so some node is as deep as the height allows.
      have hnot : ¬ t.height id ≤ t.height id - 1 := by omega
      rw [ht.height_le_iff hid] at hnot
      push Not at hnot
      obtain ⟨x, hx, hmem, hlt⟩ := hnot
      have := hle x hx hmem
      exact ⟨x, ht.descends_of_mem_lineage x hx _ hmem (by omega)⟩
  · rintro n ⟨x, hway⟩
    obtain ⟨hx, hmem, hdepth⟩ := ht.mem_lineage_of_descends hid hway
    have := hle x hx hmem
    omega

/-- `height root` is the depth of the deepest nodes. -/
theorem isGreatest_height_root (ht : t.WellFormed) :
    IsGreatest {n | ∃ x < t.size, t.depth x = n} (t.height root) := by
  have hroot : root < t.size := ht.size_pos
  obtain ⟨⟨x, hway⟩, -⟩ := ht.isGreatest_height hroot
  obtain ⟨hx, -, hdepth⟩ := ht.mem_lineage_of_descends hroot hway
  rw [ht.depth_root, Nat.zero_add] at hdepth
  refine ⟨⟨x, hx, hdepth⟩, ?_⟩
  rintro n ⟨y, hy, rfl⟩
  exact (ht.height_root_le_iff _).mp (Nat.le_refl _) y hy

/-! ## Snapshots -/

/-- What documents show of the nodes of `walkFrom id` is what the tree under `id` lists. -/
theorem map_shown_walkFrom (ht : t.WellFormed) (hid : id < t.size)
    {r : Rose (NodeType × String × Span)} (hr : t.Unfolds Node.shown id r) :
    (t.walkFrom id).toList.map (fun x => ((t.nodeAt x.1).shown, x.2)) = r.flatten 0 := by
  rw [ht.toList_walkFrom hid, ht.map_shown_preorder hid hr]

end WellFormed

end Tree

/-! ## Formats -/

theorem FormatError.message_tooDeep (height : Nat) :
    (FormatError.tooDeep height).message =
      "tree is nested " ++ toString height ++ " levels deep, snapshots allow at most 128" := by
  have hlimit : " levels deep, snapshots allow at most " ++ toString maxSnapshotNesting =
      " levels deep, snapshots allow at most 128" := by decide
  rw [← hlimit, ← String.append_assoc]
  rfl

namespace TreeFormat

variable {format : TreeFormat} {t : Tree}

/-- A format shows `t`: `dump` shows any tree, and the others those of at most 128 levels. -/
def Shows (format : TreeFormat) (t : Tree) : Prop :=
  format = dump ∨ ∀ id < t.size, t.depth id ≤ 128

theorem exists_render_of_shows (ht : t.WellFormed) (h : format.Shows t) :
    ∃ text, format.render t = .ok text := by
  rcases h with rfl | hdepth
  · exact ⟨t.dump, rfl⟩
  have hdocument := Tree.document_of_height_le ((ht.height_root_le_iff 128).mpr hdepth)
  cases format with
  | dump => exact ⟨_, rfl⟩
  | json => exact ⟨_, by rw [render, hdocument]; rfl⟩
  | yaml => exact ⟨_, by rw [render, hdocument]; rfl⟩

theorem render_of_not_shows (ht : t.WellFormed) (h : ¬ format.Shows t) :
    format.render t = .error (.tooDeep (t.height Tree.root)) := by
  obtain ⟨hformat, hdeep⟩ := not_or.mp h
  have hdocument : t.document Tree.root = .error (.tooDeep (t.height Tree.root)) :=
    Tree.document_of_lt_height (Nat.not_le.mp fun hle => hdeep ((ht.height_root_le_iff 128).mp hle))
  cases format with
  | dump => exact absurd rfl hformat
  | json => rw [render, hdocument]; rfl
  | yaml => rw [render, hdocument]; rfl

theorem not_shows_iff (ht : t.WellFormed) :
    ¬ format.Shows t ↔ format ≠ dump ∧ 128 < t.height Tree.root := by
  rw [Shows, not_or, ← ht.height_root_le_iff, Nat.not_le]

/-- A format refuses `t` only for its height, and `dump` refuses none. -/
theorem render_eq_error_iff (ht : t.WellFormed) (e : FormatError) :
    format.render t = .error e ↔
      format ≠ dump ∧ 128 < t.height Tree.root ∧ e = .tooDeep (t.height Tree.root) := by
  rw [← and_assoc, ← not_shows_iff ht]
  constructor
  · intro herror
    have hrefused : ¬ format.Shows t := by
      intro hshows
      obtain ⟨text, htext⟩ := exists_render_of_shows ht hshows
      rw [htext] at herror
      cases herror
    rw [render_of_not_shows ht hrefused] at herror
    exact ⟨hrefused, (Except.error.inj herror).symm⟩
  · rintro ⟨hrefused, rfl⟩
    exact render_of_not_shows ht hrefused

end TreeFormat

namespace Tree

variable {t : Tree} {id : Nat}

/-- Let `height` be the length of the longest way down from the node `id` of a reachable tree. If it
is over 128, `snapshot` fails with it, and the message of `tooDeep` tells the height and the limit.
Otherwise there is a snapshot, and its nodes with their levels, each before its children and these
in order, are those of `walkFrom id` with their depths: their types, rendered payloads and spans. Of
the formats for trees, `json` and `yaml` refuse the trees in which some node is over 128 levels
deep, and `dump` refuses none. -/
theorem snapshot_of_reachable (ht : t.Reachable) (hid : id < t.size) :
    (∃ height, IsGreatest {n | ∃ x, t.Descends id x n} height ∧
      (128 < height →
        t.snapshot id = .error height ∧ t.document id = .error (.tooDeep height) ∧
          (FormatError.tooDeep height).message =
            "tree is nested " ++ toString height ++
              " levels deep, snapshots allow at most 128") ∧
      (height ≤ 128 → ∃ s, t.snapshot id = .ok s ∧ t.document id = .ok s.document ∧
        s.rose.flatten 0 = (t.walkFrom id).toList.map fun x => ((t.nodeAt x.1).shown, x.2))) ∧
      ∃ deepest, IsGreatest {n | ∃ x < t.size, t.depth x = n} deepest ∧
        ∀ (format : TreeFormat) (e : FormatError), format.render t = .error e ↔
          format ≠ .dump ∧ 128 < deepest ∧ e = .tooDeep deepest := by
  have hwf := ht.wellFormed
  refine ⟨⟨t.height id, hwf.isGreatest_height hid, fun hlt => ?_, fun hle => ?_⟩,
    t.height root, hwf.isGreatest_height_root, fun format e => ?_⟩
  · exact ⟨if_pos hlt, document_of_lt_height hlt, FormatError.message_tooDeep _⟩
  · obtain ⟨s, hs, hunfolds⟩ := hwf.exists_snapshot_of_height_le hid hle
    refine ⟨s, hs, ?_, (hwf.map_shown_walkFrom hid hunfolds).symm⟩
    rw [document, hs]
  · exact TreeFormat.render_eq_error_iff hwf e

/-- The highest `chain` that has a snapshot, and the one after it. -/
theorem snapshot_of_reachable_chain :
    ((chain 128).Reachable ∧ root < (chain 128).size ∧ ∃ s, (chain 128).snapshot root = .ok s ∧
      s.rose.flatten 0 =
        (chain 128).walk.toList.map fun x => (((chain 128).nodeAt x.1).shown, x.2)) ∧
    ((chain 129).Reachable ∧ root < (chain 129).size ∧
      (chain 129).snapshot root = .error 129 ∧
      TreeFormat.yaml.render (chain 129) = .error (.tooDeep 129)) := by
  have hroot : ∀ count : Nat, root < (chain count).size := fun count => by
    rw [size_chain]
    exact Nat.succ_pos count
  have hheight : ∀ count height : Nat,
      IsGreatest {n | ∃ x, (chain count).Descends root x n} height → height = count := by
    intro count height h
    have hgreatest := (chain_reachable count).wellFormed.isGreatest_height (hroot count)
    exact (h.unique hgreatest).trans (height_chain count)
  constructor
  · obtain ⟨⟨height, hgreatest, -, htaken⟩, -⟩ :=
      snapshot_of_reachable (chain_reachable 128) (hroot 128)
    obtain ⟨s, hs, -, hflatten⟩ := htaken (Nat.le_of_eq (hheight 128 height hgreatest))
    exact ⟨chain_reachable 128, hroot 128, s, hs, hflatten⟩
  · obtain ⟨⟨height, hgreatest, hrefused, -⟩, deepest, hdeepest, hformats⟩ :=
      snapshot_of_reachable (chain_reachable 129) (hroot 129)
    obtain rfl := hheight 129 height hgreatest
    have htop := (chain_reachable 129).wellFormed.isGreatest_height_root
    obtain rfl := (hdeepest.unique htop).trans (height_chain 129)
    refine ⟨chain_reachable 129, hroot 129, (hrefused (by decide)).1, ?_⟩
    exact (hformats .yaml _).mpr ⟨by decide, by decide, rfl⟩

end Tree

end LexTree
