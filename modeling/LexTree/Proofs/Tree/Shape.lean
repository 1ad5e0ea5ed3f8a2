import LexTree.Tree

/-!
# The shape of a tree

A tree that has grown from its root node by node is told by its parent links.

- `Tree.append_of_lt` and the lemmas after it: what attaching a node changes.
- `Tree.WellFormed`: every node but the root has a parent before it, and the
  children of a node are the nodes that have it as their parent, in order.
- `WellFormed.ancestors_of_parent?` climbs one step, and `ancestors_grow` says
  that attaching a node leaves the ancestors of the others.
- `Tree.lineage` is a node with its ancestors, of which no two are siblings.
-/

namespace LexTree.Tree

variable {t : Tree} {p q id : Nat} {node : Node}

/-! ## Attaching a node -/

/-- The tree `t` with `node` attached to `p`. -/
def grow (t : Tree) (p : NodeId) (node : Node) : Tree := (t.append p node).2

theorem append_of_lt (hp : p < t.size) : t.append p node = (.ok t.size, t.grow p node) := by
  have hcontains : t.contains p = true := decide_eq_true hp
  simp only [grow, append, hcontains, if_true]

theorem cells_grow (hp : p < t.size) :
    (t.grow p node).cells = (t.cells.push ⟨node, some p, #[]⟩).modify p
      fun cell => { cell with children := cell.children.push t.size } := by
  have hcontains : t.contains p = true := decide_eq_true hp
  simp only [grow, append, hcontains, if_true]

theorem size_grow (hp : p < t.size) : (t.grow p node).size = t.size + 1 := by
  rw [size, cells_grow hp, Array.size_modify, Array.size_push, size]

/-- `grow` adds a cell at the end, and its id to the children of `p`. -/
theorem get?_grow (hp : p < t.size) (id : Nat) :
    (t.grow p node).get? id =
      if id = t.size then some ⟨node, some p, #[]⟩
      else if id = p then
        (t.get? p).map fun cell => { cell with children := cell.children.push t.size }
      else t.get? id := by
  have hpush : (t.cells.push ⟨node, some p, #[]⟩)[id]? =
      if id = t.size then some ⟨node, some p, #[]⟩ else t.get? id := Array.getElem?_push
  rw [get?, cells_grow hp, Array.getElem?_modify, hpush]
  have hne : p ≠ t.size := Nat.ne_of_lt hp
  by_cases hlast : id = t.size
  · rw [if_pos hlast, if_pos hlast, if_neg (hlast ▸ hne)]
  · rw [if_neg hlast, if_neg hlast]
    by_cases heq : id = p
    · rw [if_pos heq, if_pos heq.symm, heq]
    · rw [if_neg heq, if_neg (Ne.symm heq)]

theorem get?_eq_none_iff : t.get? id = none ↔ t.size ≤ id := Array.getElem?_eq_none_iff

theorem exists_get? (h : id < t.size) : ∃ cell, t.get? id = some cell :=
  ⟨t.cells[id], Array.getElem?_eq_getElem h⟩

/-- The node at `id`, without its place. -/
def node? (t : Tree) (id : NodeId) : Option Node := (t.get? id).map (·.node)

theorem node?_grow (hp : p < t.size) (id : Nat) :
    (t.grow p node).node? id = if id = t.size then some node else t.node? id := by
  rw [node?, get?_grow hp]
  by_cases hlast : id = t.size
  · rw [if_pos hlast, if_pos hlast]
    rfl
  · rw [if_neg hlast, if_neg hlast]
    by_cases heq : id = p
    · subst heq
      rw [if_pos rfl, Option.map_map, node?]
      rfl
    · rw [if_neg heq, node?]

theorem parent?_grow (hp : p < t.size) (id : Nat) :
    (t.grow p node).parent? id = if id = t.size then some p else t.parent? id := by
  rw [parent?, get?_grow hp]
  by_cases hlast : id = t.size
  · rw [if_pos hlast, if_pos hlast]
    rfl
  · rw [if_neg hlast, if_neg hlast]
    by_cases heq : id = p
    · subst heq
      rw [if_pos rfl, parent?]
      cases t.get? id <;> rfl
    · rw [if_neg heq, parent?]

theorem children_eq (t : Tree) (id : NodeId) :
    t.children id = ((t.get? id).map (·.children.toList)).getD [] := by
  rw [children]
  cases t.get? id <;> rfl

theorem children_of_size_le (h : t.size ≤ id) : t.children id = [] := by
  rw [children, get?_eq_none_iff.mpr h]

theorem children_grow (hp : p < t.size) (id : Nat) :
    (t.grow p node).children id =
      if id = p then t.children p ++ [t.size] else t.children id := by
  rw [children_eq, get?_grow hp]
  by_cases hlast : id = t.size
  · have hne : id ≠ p := fun heq => by omega
    rw [if_pos hlast, if_neg hne, hlast, children_of_size_le (Nat.le_refl _)]
    rfl
  · rw [if_neg hlast]
    by_cases heq : id = p
    · subst heq
      rw [if_pos rfl, if_pos rfl, children_eq]
      obtain ⟨cell, hcell⟩ := exists_get? hp
      simp [hcell]
    · rw [if_neg heq, if_neg heq, children_eq]

/-! ## Well-formed trees -/

/-- The links of a tree agree: the root alone has no parent, every other node comes after its
parent, and the children of a node are those that have it as their parent, in order. -/
structure WellFormed (t : Tree) : Prop where
  size_pos : 0 < t.size
  parent?_root : t.parent? root = none
  exists_parent : ∀ id, 0 < id → id < t.size → ∃ p : Nat, t.parent? id = some p ∧ p < id
  children_eq_filter : ∀ p, t.children p =
    (List.range t.size).filter fun id => t.parent? id = some p

theorem wellFormed_singleton (node : Node) : (singleton node).WellFormed where
  size_pos := Nat.one_pos
  parent?_root := rfl
  exists_parent := by
    intro id hpos hlt
    exact absurd (Nat.lt_one_iff.mp hlt) (Nat.ne_of_gt hpos)
  children_eq_filter := by
    intro p
    rcases Nat.eq_zero_or_pos p with rfl | hp
    · rfl
    · rw [children_of_size_le hp]
      rfl

namespace WellFormed

theorem lt_size_of_parent? (h : t.parent? id = some p) : id < t.size := by
  rcases Nat.lt_or_ge id t.size with hlt | hge
  · exact hlt
  · rw [parent?, get?_eq_none_iff.mpr hge] at h
    cases h

theorem parent_lt (ht : t.WellFormed) (h : t.parent? id = some p) : p < id := by
  have hpos : 0 < id := by
    refine Nat.pos_of_ne_zero fun hzero => ?_
    rw [hzero, show t.parent? 0 = none from ht.parent?_root] at h
    cases h
  obtain ⟨p', hp', hlt⟩ := ht.exists_parent id hpos (lt_size_of_parent? h)
  rw [h] at hp'
  cases hp'
  exact hlt

theorem mem_children_iff (ht : t.WellFormed) : id ∈ t.children p ↔ t.parent? id = some p := by
  rw [ht.children_eq_filter, List.mem_filter, List.mem_range, decide_eq_true_eq]
  constructor
  · exact fun h => h.2
  · exact fun h => ⟨lt_size_of_parent? h, h⟩

/-- The children of `id` are listed in increasing order. -/
theorem pairwise_children (ht : t.WellFormed) (id : Nat) :
    (t.children id).Pairwise (· < ·) := by
  rw [ht.children_eq_filter]
  exact List.pairwise_lt_range.filter _

/-- `grow` keeps the links in agreement. -/
theorem grow (ht : t.WellFormed) (hp : p < t.size) (node : Node) :
    (t.grow p node).WellFormed where
  size_pos := by
    rw [size_grow hp]
    exact Nat.succ_pos _
  parent?_root := by
    have hne : root ≠ t.size := Nat.ne_of_lt ht.size_pos
    rw [parent?_grow hp, if_neg hne, ht.parent?_root]
  exists_parent := by
    intro id hpos hlt
    rw [size_grow hp] at hlt
    rw [parent?_grow hp]
    by_cases hlast : id = t.size
    · rw [if_pos hlast]
      exact ⟨p, rfl, hlast ▸ hp⟩
    · rw [if_neg hlast]
      exact ht.exists_parent id hpos (by omega)
  children_eq_filter := by
    intro q
    -- The old nodes keep their parents, and the new one is after all of them.
    have hold : (List.range t.size).filter (fun id => (t.grow p node).parent? id = some q) =
        t.children q := by
      rw [ht.children_eq_filter]
      refine List.filter_congr fun id hid => ?_
      rw [parent?_grow hp, if_neg (Nat.ne_of_lt (List.mem_range.mp hid))]
    rw [size_grow hp, List.range_succ, List.filter_append, hold, children_grow hp]
    by_cases hq : q = p
    · subst hq
      simp [parent?_grow hp]
    · simp [parent?_grow hp, hq, Ne.symm hq]

end WellFormed

/-! ## Ancestors -/

/-- `climb` needs no more steps than the id that it starts from. -/
theorem WellFormed.climb_eq_climb (ht : t.WellFormed) {m n : Nat} (hm : id ≤ m) (hn : id ≤ n) :
    t.climb m id = t.climb n id := by
  induction m generalizing n id with
  | zero =>
    obtain rfl := Nat.le_zero.mp hm
    cases n with
    | zero => rfl
    | succ n => rw [climb, climb, show t.parent? 0 = none from ht.parent?_root]
  | succ m ih =>
    cases n with
    | zero =>
      obtain rfl := Nat.le_zero.mp hn
      rw [climb, climb, show t.parent? 0 = none from ht.parent?_root]
    | succ n =>
      rw [climb, climb]
      cases hparent : t.parent? id with
      | none => rfl
      | some p =>
        have hlt := ht.parent_lt hparent
        exact congrArg (p :: ·) (ih (by omega) (by omega))

theorem WellFormed.ancestors_root (ht : t.WellFormed) : t.ancestors root = [] := by
  have hzero : t.climb t.size 0 = t.climb 0 0 := ht.climb_eq_climb (Nat.zero_le _) (Nat.le_refl _)
  exact hzero

/-- The ancestors of `id` are its parent `p` and the ancestors of `p`. -/
theorem WellFormed.ancestors_of_parent? (ht : t.WellFormed) (h : t.parent? id = some p) :
    t.ancestors id = p :: t.ancestors p := by
  have hlt := ht.parent_lt h
  have hid := WellFormed.lt_size_of_parent? h
  rw [ancestors, ht.climb_eq_climb (n := id) (Nat.le_of_lt hid) (Nat.le_refl _)]
  obtain ⟨n, rfl⟩ : ∃ n, id = n + 1 := ⟨id - 1, by omega⟩
  rw [climb, h]
  exact congrArg (p :: ·) (ht.climb_eq_climb (by omega) (by omega))

/-- What holds of the root, and of a child whenever it holds of its parent, holds of all nodes. -/
theorem WellFormed.induction (ht : t.WellFormed) {P : Nat → Prop} (hroot : P root)
    (hchild : ∀ id p : Nat, t.parent? id = some p → P p → P id) : ∀ id < t.size, P id := by
  intro id
  induction id using Nat.strongRecOn with
  | ind id ih =>
    intro hid
    rcases Nat.eq_zero_or_pos id with rfl | hpos
    · exact hroot
    · obtain ⟨p, hp, hlt⟩ := ht.exists_parent id hpos hid
      exact hchild id p hp (ih p hlt (Nat.lt_trans hlt hid))

theorem WellFormed.depth_root (ht : t.WellFormed) : t.depth root = 0 := by
  rw [depth, ht.ancestors_root]
  rfl

theorem WellFormed.depth_of_parent? (ht : t.WellFormed) (h : t.parent? id = some p) :
    t.depth id = t.depth p + 1 := by
  rw [depth, ht.ancestors_of_parent? h]
  rfl

/-- `grow` leaves the ancestors of the other nodes. -/
theorem WellFormed.ancestors_grow (ht : t.WellFormed) (hp : p < t.size) :
    ∀ id < t.size, (t.grow p node).ancestors id = t.ancestors id := by
  have ht' := ht.grow hp node
  refine ht.induction ?_ fun id q hq ih => ?_
  · rw [ht.ancestors_root, ht'.ancestors_root]
  · have hne : id ≠ t.size := Nat.ne_of_lt (lt_size_of_parent? hq)
    have hq' : (t.grow p node).parent? id = some q := by
      rw [parent?_grow hp, if_neg hne, hq]
    rw [ht.ancestors_of_parent? hq, ht'.ancestors_of_parent? hq', ih]

theorem WellFormed.depth_grow (ht : t.WellFormed) (hp : p < t.size) (hid : id < t.size) :
    (t.grow p node).depth id = t.depth id := by
  rw [depth, ht.ancestors_grow hp id hid, depth]

theorem WellFormed.parent?_grow_new (hp : p < t.size) :
    (t.grow p node).parent? t.size = some p := by
  rw [parent?_grow hp, if_pos rfl]

/-! ## Lineages -/

/-- The node `id` and its ancestors. -/
def lineage (t : Tree) (id : NodeId) : List NodeId := id :: t.ancestors id

namespace WellFormed

theorem lineage_of_parent? (ht : t.WellFormed) (h : t.parent? id = some p) :
    t.lineage id = id :: t.lineage p := by
  rw [lineage, lineage, ht.ancestors_of_parent? h]

/-- A lineage holds the parents of its nodes. -/
theorem parent_mem_ancestors (ht : t.WellFormed) {c : Nat} (hc : t.parent? c = some q) :
    ∀ id < t.size, c ∈ t.lineage id → q ∈ t.ancestors id := by
  refine ht.induction (fun hmem => ?_) fun id p hp ih hmem => ?_
  · rw [lineage, ht.ancestors_root] at hmem
    rw [List.mem_singleton.mp hmem, ht.parent?_root] at hc
    cases hc
  · rw [ht.ancestors_of_parent? hp]
    rw [ht.lineage_of_parent? hp] at hmem
    rcases List.mem_cons.mp hmem with rfl | hmem
    · rw [hc] at hp
      cases hp
      exact List.mem_cons_self
    · exact List.mem_cons_of_mem _ (ih hmem)

/-- Ancestors come first. -/
theorem lt_of_mem_ancestors (ht : t.WellFormed) {c : Nat} :
    ∀ id < t.size, c ∈ t.ancestors id → c < id := by
  refine ht.induction (fun hmem => ?_) fun id p hp ih hmem => ?_
  · rw [ht.ancestors_root] at hmem
    cases hmem
  · have hlt := ht.parent_lt hp
    rw [ht.ancestors_of_parent? hp] at hmem
    rcases List.mem_cons.mp hmem with rfl | hmem
    · exact hlt
    · exact Nat.lt_trans (ih hmem) hlt

theorem le_of_mem_lineage (ht : t.WellFormed) {c : Nat} (hid : id < t.size)
    (hc : c ∈ t.lineage id) : c ≤ id := by
  rcases List.mem_cons.mp hc with rfl | hc
  · exact Nat.le_refl _
  · exact Nat.le_of_lt (ht.lt_of_mem_ancestors id hid hc)

/-- A lineage goes through one child of a node `q` at most. -/
theorem eq_of_mem_lineage (ht : t.WellFormed) {b c : Nat} (hb : t.parent? b = some q)
    (hc : t.parent? c = some q) :
    ∀ id < t.size, b ∈ t.lineage id → c ∈ t.lineage id → b = c := by
  have hqb := ht.parent_lt hb
  have hqc := ht.parent_lt hc
  refine ht.induction (fun hbmem hcmem => ?_) fun id p hp ih hbmem hcmem => ?_
  · rw [lineage, ht.ancestors_root] at hbmem hcmem
    rw [List.mem_singleton.mp hbmem, List.mem_singleton.mp hcmem]
  · have hpid := lt_size_of_parent? hp
    have hlt := ht.parent_lt hp
    have hle : ∀ x : Nat, x ∈ t.lineage p → x ≤ p :=
      fun x => ht.le_of_mem_lineage (Nat.lt_trans hlt hpid)
    rw [ht.lineage_of_parent? hp] at hbmem hcmem
    -- The child of `q` at the end of the lineage is after all other nodes of it.
    rcases List.mem_cons.mp hbmem with rfl | hb'
    · rcases List.mem_cons.mp hcmem with rfl | hc'
      · rfl
      · rw [hb] at hp
        cases hp
        have := hle c hc'
        omega
    · rcases List.mem_cons.mp hcmem with rfl | hc'
      · rw [hc] at hp
        cases hp
        have := hle b hb'
        omega
      · exact ih hb' hc'

end WellFormed

end LexTree.Tree
