import LexTree.Proofs.Tree.Outline
import LexTree.Proofs.Tree.Subtree
import Mathlib.Data.List.Forall2

/-!
# Trees as values

A tree in an arena is links between ids. What it says can be told without them: a
label, and the trees under it in order.

- `Rose` are such trees, and `Rose.flatten` lists their labels in preorder with
  depths.
- `Rose.flatten_injective`: the depths tell the whole tree.
- `Tree.Unfolds` says which of them stands under a node of an arena.
- `WellFormed.exists_unfolds`: there is one under every node, and the walk lists
  it. `Outlines.unfolds` tells which, from what a tree lists.
-/

namespace LexTree

/-- A label, and the trees under it in order. -/
inductive Rose (α : Type) where
  | node (label : α) (children : List (Rose α))

namespace Rose

variable {α : Type}

mutual

/-- The labels of a tree in preorder, with their depths; the topmost one is at `depth`. -/
def flatten (depth : Nat) : Rose α → List (α × Nat)
  | node label children => (label, depth) :: flattenAll (depth + 1) children

/-- The labels of trees next to each other. -/
def flattenAll (depth : Nat) : List (Rose α) → List (α × Nat)
  | [] => []
  | t :: ts => flatten depth t ++ flattenAll depth ts

end

/-! ## Depths tell the tree -/

/-- A list of `labels` with depths that does not go on at `depth` or below. -/
def EndsAt (depth : Nat) (labels : List (α × Nat)) : Prop :=
  ∀ x ∈ labels.head?, x.2 < depth

theorem endsAt_nil (depth : Nat) : EndsAt depth ([] : List (α × Nat)) := by
  intro x hx
  cases hx

theorem head?_flatten_append (depth : Nat) (t : Rose α) (rest : List (α × Nat)) :
    ∃ label, (flatten depth t ++ rest).head? = some (label, depth) := by
  cases t with
  | node label children =>
    rw [flatten]
    exact ⟨label, rfl⟩

/-- A tree among others at `depth` starts a list that does not end there. -/
theorem not_endsAt_flattenAll_cons (depth : Nat) (t : Rose α) (ts : List (Rose α))
    (rest : List (α × Nat)) : ¬ EndsAt depth (flattenAll depth (t :: ts) ++ rest) := by
  intro hends
  rw [flattenAll, List.append_assoc] at hends
  obtain ⟨label, hhead⟩ := head?_flatten_append depth t (flattenAll depth ts ++ rest)
  exact Nat.lt_irrefl depth (hends (label, depth) hhead)

/-- What follows the trees at `depth`, and the trees themselves, are above the next one. -/
theorem endsAt_succ_flattenAll {depth : Nat} {rest : List (α × Nat)} (hrest : EndsAt depth rest)
    (ts : List (Rose α)) : EndsAt (depth + 1) (flattenAll depth ts ++ rest) := by
  intro x hx
  cases ts with
  | nil =>
    rw [flattenAll, List.nil_append] at hx
    exact Nat.lt_succ_of_lt (hrest x hx)
  | cons t ts =>
    rw [flattenAll, List.append_assoc] at hx
    obtain ⟨label, hhead⟩ := head?_flatten_append depth t (flattenAll depth ts ++ rest)
    rw [hhead] at hx
    cases hx
    exact Nat.lt_succ_self depth

mutual

/-- A tree is told by `flatten`, also if a list goes on above it. -/
theorem flatten_append_inj {depth : Nat} : ∀ {t u : Rose α} {rest rest' : List (α × Nat)},
    EndsAt (depth + 1) rest → EndsAt (depth + 1) rest' →
    flatten depth t ++ rest = flatten depth u ++ rest' → t = u ∧ rest = rest'
  | node label ts, node label' us, rest, rest', hrest, hrest', h => by
    rw [flatten, flatten, List.cons_append, List.cons_append] at h
    obtain ⟨hlabel, h⟩ := List.cons.inj h
    obtain ⟨rfl, rfl⟩ := flattenAll_append_inj hrest hrest' h
    exact ⟨congrArg (node · ts) (Prod.mk.inj hlabel).1, rfl⟩

/-- Trees next to each other are told by `flattenAll`, also if a list goes on above them. -/
theorem flattenAll_append_inj {depth : Nat} :
    ∀ {ts us : List (Rose α)} {rest rest' : List (α × Nat)},
    EndsAt depth rest → EndsAt depth rest' →
    flattenAll depth ts ++ rest = flattenAll depth us ++ rest' → ts = us ∧ rest = rest'
  | [], [], rest, rest', _, _, h => by
    rw [flattenAll] at h
    exact ⟨rfl, h⟩
  | [], u :: us, rest, rest', hrest, _, h => by
    rw [flattenAll, List.nil_append] at h
    exact absurd (h ▸ hrest) (not_endsAt_flattenAll_cons depth u us rest')
  | t :: ts, [], rest, rest', _, hrest', h => by
    have hnil : flattenAll depth ([] : List (Rose α)) ++ rest' = rest' := by
      rw [flattenAll, List.nil_append]
    rw [hnil] at h
    exact absurd (h ▸ hrest') (not_endsAt_flattenAll_cons depth t ts rest)
  | t :: ts, u :: us, rest, rest', hrest, hrest', h => by
    rw [flattenAll, flattenAll, List.append_assoc, List.append_assoc] at h
    obtain ⟨rfl, htail⟩ := flatten_append_inj (endsAt_succ_flattenAll hrest ts)
      (endsAt_succ_flattenAll hrest' us) h
    obtain ⟨rfl, rfl⟩ := flattenAll_append_inj hrest hrest' htail
    exact ⟨rfl, rfl⟩

end

theorem flatten_injective {depth : Nat} {t u : Rose α}
    (h : flatten depth t = flatten depth u) : t = u := by
  have happend : flatten depth t ++ [] = flatten depth u ++ [] := by rw [h]
  exact (flatten_append_inj (endsAt_nil _) (endsAt_nil _) happend).1

end Rose

namespace Tree

variable {t : Tree} {α : Type}

/-- The tree under a node of `t`, with labels for its nodes: the node's, and the trees under its
children in order. -/
inductive Unfolds (t : Tree) (label : Node → α) : NodeId → Rose α → Prop where
  | node {id : NodeId} {node : Node} {children : List (Rose α)} :
      t.node? id = some node → List.Forall₂ (Unfolds t label) (t.children id) children →
      Unfolds t label id (.node (label node) children)

/-- What the tree `t` has at the entry `x` of a walk, as a label with its depth. -/
def labelAt? (t : Tree) (label : Node → α) (x : NodeId × Nat) : Option (α × Nat) :=
  (t.entryAt? x).map fun entry => (label entry.node, entry.depth)

/-- Under every node there is a tree `x`, and the preorder lists it. -/
theorem WellFormed.exists_unfolds (ht : t.WellFormed) (label : Node → α) :
    ∀ id < t.size, ∃ x, t.Unfolds label id x ∧
      ∀ d : Nat, (t.preorder id d).map (t.labelAt? label) = (x.flatten d).map some := by
  refine ht.downward_induction fun id hid ih => ?_
  obtain ⟨cell, hcell⟩ := exists_get? hid
  have hnode : t.node? id = some cell.node := by rw [node?, hcell, Option.map_some]
  have hchildren : ∀ cs : List NodeId, (∀ c ∈ cs, c ∈ t.children id) → ∃ xs,
      List.Forall₂ (t.Unfolds label) cs xs ∧
        ∀ d : Nat, (cs.flatMap (t.preorder · d)).map (t.labelAt? label) =
          (Rose.flattenAll d xs).map some := by
    intro cs hcs
    induction cs with
    | nil => exact ⟨[], .nil, fun d => by rw [Rose.flattenAll]; rfl⟩
    | cons c cs ihcs =>
      obtain ⟨hc, hcs⟩ := List.forall_mem_cons.mp hcs
      obtain ⟨x, hx, hflat⟩ := ih c hc
      obtain ⟨xs, hxs, hflats⟩ := ihcs hcs
      refine ⟨x :: xs, .cons hx hxs, fun d => ?_⟩
      rw [List.flatMap_cons, List.map_append, hflat, hflats, Rose.flattenAll, List.map_append]
  obtain ⟨xs, hxs, hflats⟩ := hchildren (t.children id) fun _ hc => hc
  refine ⟨.node (label cell.node) xs, .node hnode hxs, fun d => ?_⟩
  rw [ht.preorder_eq hid, List.map_cons, hflats, Rose.flatten, List.map_cons, labelAt?, entryAt?,
    hnode]
  rfl

/-- If `x` lists the labels of `t` with their depths, then `t` unfolds to `x`. -/
theorem Outlines.unfolds {current depth : Nat} {entries : List Entry} {label : Node → α}
    (h : t.Outlines current entries depth) {x : Rose α}
    (hx : x.flatten 0 = entries.map fun entry => (label entry.node, entry.depth)) :
    t.Unfolds label root x := by
  obtain ⟨y, hy, hpreorder⟩ := h.wellFormed.exists_unfolds label root h.wellFormed.size_pos
  have hlabels : (t.preorder root 0).map (t.labelAt? label) = (x.flatten 0).map some := by
    have hmap := congrArg (List.map (Option.map fun entry : Entry =>
      (label entry.node, entry.depth))) h.map_entryAt?
    rw [List.map_map, List.map_map] at hmap
    rw [hx, List.map_map]
    exact hmap
  have hsome : Function.Injective (some : α × Nat → Option (α × Nat)) :=
    fun _ _ h => Option.some.inj h
  have hflatten : y.flatten 0 = x.flatten 0 :=
    List.map_injective_iff.mpr hsome ((hpreorder 0).symm.trans hlabels)
  exact Rose.flatten_injective hflatten ▸ hy

end Tree

end LexTree
