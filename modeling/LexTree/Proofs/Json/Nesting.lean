import LexTree.Format
import LexTree.Proofs.Json.Pretty
import LexTree.Proofs.Tree.Growth
import LexTree.Proofs.Tree.Snapshot

/-!
# How deep the documents of trees are nested

A node is a record, and its children are a list in that record. So a document is
nested twice as deep as the tree that it shows, and trees are cut off at 128 levels
only where their documents are at 257.

- `Document.nesting` counts the lists and records around the innermost value.
- `WellFormed.nesting_nest`: the document of a subtree by the height of its node.
- `nesting_of_render_json`: the document in the text that is written for a tree.
  The limit on the depth of trees is none of 128 on the nesting of documents
  (`nesting_of_render_json_gt`).
-/

namespace LexTree

namespace Document

/-! ## Nesting -/

mutual

/-- The most lists and records that stand inside each other in a document, itself included. -/
def nesting : Document → Nat
  | text _ => 0
  | number _ => 0
  | list items => nestingOfItems items + 1
  | record fields => nestingOfFields fields + 1

/-- The deepest `nesting` among documents. -/
def nestingOfItems : List Document → Nat
  | [] => 0
  | item :: items => max item.nesting (nestingOfItems items)

/-- The deepest `nesting` among the values of fields. -/
def nestingOfFields : List (String × Document) → Nat
  | [] => 0
  | (_, value) :: fields => max value.nesting (nestingOfFields fields)

end

theorem nestingOfItems_le_iff (items : List Document) (n : Nat) :
    nestingOfItems items ≤ n ↔ ∀ item ∈ items, item.nesting ≤ n := by
  induction items with
  | nil => simp [nestingOfItems]
  | cons item items ih => rw [nestingOfItems, Nat.max_le, ih, List.forall_mem_cons]

end Document

namespace Snapshot

theorem documents_eq_map (snapshots : List Snapshot) :
    documents snapshots = snapshots.map document := by
  induction snapshots with
  | nil => rw [documents, List.map_nil]
  | cons s rest ih => rw [documents, ih, List.map_cons]

/-- Neither texts nor numbers are nested, so that it makes no difference whether `value` is left
out. -/
theorem nesting_document_nil (type value : String) (span : Span) :
    (node type value span []).document.nesting = 1 := by
  cases hempty : value.isEmpty with
  | true => simp [document, hempty, Document.nesting, Document.nestingOfFields]
  | false => simp [document, hempty, Document.nesting, Document.nestingOfFields]

theorem nesting_document_cons (type value : String) (span : Span) (s : Snapshot)
    (rest : List Snapshot) :
    (node type value span (s :: rest)).document.nesting =
      Document.nestingOfItems (documents (s :: rest)) + 2 := by
  cases hempty : value.isEmpty with
  | true => simp [document, hempty, Document.nesting, Document.nestingOfFields]
  | false => simp [document, hempty, Document.nesting, Document.nestingOfFields]

/-- A record and, if there are `children`, a list are around what is in the document of a node. -/
theorem nesting_document_le_iff (type value : String) (span : Span) (children : List Snapshot)
    (n : Nat) :
    (node type value span children).document.nesting ≤ n ↔
      1 ≤ n ∧ ∀ s ∈ children, s.document.nesting + 2 ≤ n := by
  cases children with
  | nil =>
    rw [nesting_document_nil]
    simp
  | cons s rest =>
    have hitems : Document.nestingOfItems (documents (s :: rest)) ≤ n - 2 ↔
        ∀ child ∈ s :: rest, child.document.nesting ≤ n - 2 := by
      rw [Document.nestingOfItems_le_iff, documents_eq_map, List.forall_mem_map]
    rw [nesting_document_cons]
    constructor
    · intro h
      refine ⟨by omega, fun child hchild => ?_⟩
      have := hitems.mp (by omega) child hchild
      omega
    · rintro ⟨-, h⟩
      have hfirst : s.document.nesting + 2 ≤ n := h s List.mem_cons_self
      have hle : Document.nestingOfItems (documents (s :: rest)) ≤ n - 2 := by
        refine hitems.mpr fun child hchild => ?_
        have := h child hchild
        omega
      omega

end Snapshot

namespace Tree

variable {t : Tree} {id : Nat}

/-! ## Documents of trees -/

theorem document_of_height_le (h : t.height id ≤ maxSnapshotNesting) :
    t.document id = .ok (t.nest maxSnapshotNesting id).document := by
  rw [document, snapshot, if_neg (Nat.not_lt.mpr h)]

theorem document_of_lt_height (h : maxSnapshotNesting < t.height id) :
    t.document id = .error (.tooDeep (t.height id)) := by
  rw [document, snapshot, if_pos h]

namespace WellFormed

/-- With enough `levels`, the document of `nest levels id` is nested twice as deep as `id` is high,
and once more. -/
theorem nesting_nest_le_iff (ht : t.WellFormed) (levels : Nat) : ∀ id < t.size,
    t.height id ≤ levels → ∀ n : Nat,
      (t.nest levels id).document.nesting ≤ n ↔ 2 * t.height id + 1 ≤ n := by
  induction levels with
  | zero =>
    intro id _ hheight n
    have hzero : t.height id = 0 := Nat.le_zero.mp hheight
    rw [nest, Snapshot.nesting_document_le_iff, hzero]
    simp
  | succ levels ih =>
    intro id hid hheight n
    have hlower : ∀ c ∈ t.children id, t.height c + 1 ≤ levels + 1 :=
      (ht.height_le_iff_forall_children hid (levels + 1)).mp hheight
    have hchild : ∀ c ∈ t.children id,
        (t.nest levels c).document.nesting + 2 ≤ n ↔ 2 * (t.height c + 1) + 1 ≤ n := by
      intro c hc
      have hle : t.height c ≤ levels := Nat.le_of_succ_le_succ (hlower c hc)
      have hnext := ih c (ht.lt_size_of_mem_children hc) hle
      constructor
      · intro h
        have := (hnext (n - 2)).mp (by omega)
        omega
      · intro h
        have := (hnext (n - 2)).mpr (by omega)
        omega
    have hhalf := ht.height_le_iff_forall_children hid ((n - 1) / 2)
    rw [nest, Snapshot.nesting_document_le_iff, List.forall_mem_map]
    constructor
    · rintro ⟨hone, h⟩
      have hbelow : t.height id ≤ (n - 1) / 2 := by
        refine hhalf.mpr fun c hc => ?_
        have := (hchild c hc).mp (h c hc)
        omega
      omega
    · intro h
      refine ⟨by omega, fun c hc => (hchild c hc).mpr ?_⟩
      have := hhalf.mp (by omega) c hc
      omega

theorem nesting_nest (ht : t.WellFormed) (hid : id < t.size) {levels : Nat}
    (h : t.height id ≤ levels) : (t.nest levels id).document.nesting = 2 * t.height id + 1 := by
  have hiff := ht.nesting_nest_le_iff levels id hid h
  apply Nat.le_antisymm
  · exact (hiff _).mpr (Nat.le_refl _)
  · exact (hiff _).mp (Nat.le_refl _)

/-- A tree of at most `maxSnapshotNesting` levels is written as JSON, and `read?` finds a document
in the text that is nested twice as deep as the tree is high, and once more. -/
theorem exists_render_json (ht : t.WellFormed) (h : t.height root ≤ maxSnapshotNesting) :
    ∃ out d, TreeFormat.json.render t = .ok out ∧ Format.Json.read? out = some d ∧
      d.nesting = 2 * t.height root + 1 := by
  refine ⟨Format.Json.pretty (t.nest maxSnapshotNesting root).document, _, ?_,
    Format.Json.read?_pretty _, ht.nesting_nest ht.size_pos h⟩
  rw [TreeFormat.render, document_of_height_le h]
  rfl

end WellFormed

theorem render_json_of_lt (h : maxSnapshotNesting < t.height root) :
    TreeFormat.json.render t = .error (.tooDeep (t.height root)) := by
  rw [TreeFormat.render, document_of_lt_height h]
  rfl

/-- `render` writes a reachable tree as JSON if and only if its height is at most 128, and the lists
and records of the document `d` in it are then nested twice as deep and once more. So they are
nested up to 257 levels deep, and no more than 128 if and only if the height is at most 63. -/
theorem nesting_of_render_json (ht : t.Reachable) :
    ((∃ out, TreeFormat.json.render t = .ok out) ↔ t.height root ≤ 128) ∧
      ∀ out, TreeFormat.json.render t = .ok out →
        ∃ d, Format.Json.read? out = some d ∧ d.nesting = 2 * t.height root + 1 ∧
          d.nesting ≤ 257 ∧ (d.nesting ≤ 128 ↔ t.height root ≤ 63) := by
  have hwritten : ∀ out, TreeFormat.json.render t = .ok out → t.height root ≤ 128 := by
    intro out hout
    rcases Nat.lt_or_ge maxSnapshotNesting (t.height root) with hlt | hle
    · rw [render_json_of_lt hlt] at hout
      cases hout
    · exact hle
  refine ⟨⟨fun ⟨out, hout⟩ => hwritten out hout, fun h => ?_⟩, fun out hout => ?_⟩
  · obtain ⟨out, -, hrender, -⟩ := ht.wellFormed.exists_render_json h
    exact ⟨out, hrender⟩
  · have hheight := hwritten out hout
    obtain ⟨out', d, hrender, hread, hnesting⟩ := ht.wellFormed.exists_render_json hheight
    rw [hout] at hrender
    obtain rfl := Except.ok.inj hrender
    exact ⟨d, hread, hnesting, by omega, by omega⟩

/-- A root and `count` nodes, each under the one before. -/
def chain (count : Nat) : Tree :=
  ((singleton (.bare ⟨"ROOT"⟩ .zero)).appendChain root (.bare ⟨"LIST"⟩ .zero) count).2

theorem chain_reachable (count : Nat) : (chain count).Reachable :=
  (Grows.appendChain .refl _ _ _).reachable (.singleton _)

theorem size_appendChain {p : Nat} (hp : t.size = p + 1) (node : Node) (count : Nat) :
    (t.appendChain p node count).2.size = t.size + count := by
  induction count generalizing t p with
  | zero => rfl
  | succ count ih =>
    have hlt : p < t.size := by omega
    have hsize : (t.grow p node).size = t.size + 1 := size_grow hlt
    rw [appendChain, append_of_lt hlt]
    dsimp only
    rw [ih hsize, hsize]
    omega

/-- Nodes attached by `appendChain` under the last one have the one before them as parent. -/
theorem parent?_appendChain {p : Nat} (hp : t.size = p + 1) (node : Node) (count : Nat) (id : Nat)
    (hid : id < t.size + count) :
    (t.appendChain p node count).2.parent? id =
      if id < t.size then t.parent? id else some (id - 1) := by
  induction count generalizing t p with
  | zero =>
    have hold : id < t.size := hid
    rw [appendChain, if_pos hold]
  | succ count ih =>
    have hlt : p < t.size := by omega
    have hsize : (t.grow p node).size = t.size + 1 := size_grow hlt
    rw [appendChain, append_of_lt hlt]
    dsimp only
    rw [ih hsize (by omega), hsize, parent?_grow hlt]
    rcases Nat.lt_trichotomy id t.size with hold | rfl | hnew
    · rw [if_pos (by omega), if_neg (by omega), if_pos hold]
    · rw [if_pos (by omega), if_pos rfl, if_neg (by omega), hp, Nat.add_sub_cancel]
    · rw [if_neg (by omega), if_neg (by omega)]

theorem size_chain (count : Nat) : (chain count).size = count + 1 := by
  have hsize := size_appendChain (t := singleton (.bare ⟨"ROOT"⟩ .zero)) (p := root) rfl
    (.bare ⟨"LIST"⟩ .zero) count
  rw [chain, hsize, Nat.add_comm]
  rfl

theorem depth_chain (count : Nat) : ∀ id ≤ count, (chain count).depth id = id := by
  intro id hid
  have hwf := (chain_reachable count).wellFormed
  induction id with
  | zero => exact hwf.depth_root
  | succ id ih =>
    have hone : (singleton (.bare ⟨"ROOT"⟩ .zero)).size = root + 1 := rfl
    have hparent : (chain count).parent? (id + 1) = some id := by
      have hlater : ¬ id + 1 < root + 1 := Nat.not_lt.mpr (Nat.le_add_left 1 id)
      rw [chain, parent?_appendChain hone _ _ _ (by rw [hone, root]; omega), hone, if_neg hlater]
      rfl
    rw [hwf.depth_of_parent? hparent, ih (by omega)]

/-- `chain count` has the height `count`. -/
theorem height_chain (count : Nat) : (chain count).height root = count := by
  have hiff := (chain_reachable count).wellFormed.height_root_le_iff
  rw [size_chain] at hiff
  apply Nat.le_antisymm
  · refine (hiff count).mpr fun id hid => ?_
    rw [depth_chain count id (by omega)]
    omega
  · have hdeepest := (hiff _).mp (Nat.le_refl _) count (by omega)
    rwa [depth_chain count count (Nat.le_refl _)] at hdeepest

/-- The deepest `chain` whose document is nested no more than 128 levels deep. -/
theorem nesting_of_render_json_chain :
    (chain 63).Reachable ∧ ∃ out d, TreeFormat.json.render (chain 63) = .ok out ∧
      Format.Json.read? out = some d ∧ d.nesting = 127 := by
  have hheight : (chain 63).height root = 63 := height_chain 63
  obtain ⟨hiff, hnesting⟩ := nesting_of_render_json (chain_reachable 63)
  obtain ⟨out, hout⟩ := hiff.mpr (by rw [hheight]; decide)
  obtain ⟨d, hread, hd, -⟩ := hnesting out hout
  rw [hheight] at hd
  exact ⟨chain_reachable 63, out, d, hout, hread, hd⟩

/-- A `chain` with one node more is written all the same. -/
theorem nesting_of_render_json_gt :
    (chain 64).Reachable ∧ ∃ out d, TreeFormat.json.render (chain 64) = .ok out ∧
      Format.Json.read? out = some d ∧ 128 < d.nesting := by
  have hheight : (chain 64).height root = 64 := height_chain 64
  have hle : (chain 64).height root ≤ maxSnapshotNesting := by
    rw [hheight]
    decide
  obtain ⟨out, d, hout, hread, hd⟩ := (chain_reachable 64).wellFormed.exists_render_json hle
  rw [hheight] at hd
  exact ⟨chain_reachable 64, out, d, hout, hread, by omega⟩

end Tree

end LexTree
