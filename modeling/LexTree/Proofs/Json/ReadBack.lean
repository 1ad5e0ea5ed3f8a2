import LexTree.Format
import LexTree.Proofs.Json.Pretty
import LexTree.Proofs.Tree.Snapshot

/-!
# Reading trees and tokens back

Nothing that documents show of a tree or of tokens is lost in JSON.

- `Snapshot.ofDocument?` is the snapshot that a document shows, where no value is
  an empty one and no children are none, and `TokenRecord.ofDocument?` the token.
- `Snapshot.ofDocument?_document` and `TokenRecord.ofDocument?_document` read back
  what documents are made of.
- `json_reads_back`: trees and tokens from the texts that are written for them.
-/

namespace LexTree

namespace Document

/-- The text under `name`, or `absent` if nothing has that name. -/
def textAt? (fields : List (String × Document)) (name : String) (absent : Option String) :
    Option String :=
  match fields.lookup name with
  | none => absent
  | some (.text value) => some value
  | some _ => none

/-- The number under `name`. -/
def numberAt? (fields : List (String × Document)) (name : String) : Option Nat :=
  match fields.lookup name with
  | some (.number value) => some value
  | _ => none

end Document

open Document (textAt? numberAt?)

/-! ## Snapshots -/

namespace Snapshot

mutual

/-- The snapshot that a document shows. -/
def ofDocument? : Document → Option Snapshot
  | .record fields => do
    let type ← textAt? fields "type" none
    let value ← textAt? fields "value" (some "")
    let offset ← numberAt? fields "offset"
    let length ← numberAt? fields "length"
    let children ← childrenOf? fields
    return .node type value ⟨offset, length⟩ children
  | _ => none

/-- The snapshots under the name `children`, and none if nothing has that name. -/
def childrenOf? : List (String × Document) → Option (List Snapshot)
  | [] => some []
  | (name, value) :: fields => if name = "children" then listOf? value else childrenOf? fields

/-- The snapshots that a list of documents shows. -/
def listOf? : Document → Option (List Snapshot)
  | .list items => ofDocuments? items
  | _ => none

/-- The snapshots that documents show, one each. -/
def ofDocuments? : List Document → Option (List Snapshot)
  | [] => some []
  | item :: items => do
    let s ← ofDocument? item
    let rest ← ofDocuments? items
    return s :: rest

end

/-- The snapshot that a JSON text shows. -/
def ofJson? (text : String) : Option Snapshot := (Format.Json.read? text).bind ofDocument?

mutual

/-- `ofDocument?` reads a snapshot back from its document, where empty values and lists are left
out. -/
theorem ofDocument?_document : ∀ s : Snapshot, ofDocument? s.document = some s
  | .node type value span children => by
    have hchildren := ofDocuments?_documents children
    -- Two of the fields are there or not.
    cases hempty : value.isEmpty with
    | true =>
      obtain rfl := String.isEmpty_iff.mp hempty
      cases children with
      | nil => simp [document, ofDocument?, textAt?, numberAt?, List.lookup_cons, childrenOf?]
      | cons child children =>
        simp [document, ofDocument?, textAt?, numberAt?, List.lookup_cons, childrenOf?, listOf?,
          hchildren]
    | false =>
      cases children with
      | nil =>
        simp [document, hempty, ofDocument?, textAt?, numberAt?, List.lookup_cons, childrenOf?]
      | cons child children =>
        simp [document, hempty, ofDocument?, textAt?, numberAt?, List.lookup_cons, childrenOf?,
          listOf?, hchildren]

theorem ofDocuments?_documents : ∀ snapshots : List Snapshot,
    ofDocuments? (documents snapshots) = some snapshots
  | [] => by rw [documents, ofDocuments?]
  | s :: rest => by
    rw [documents, ofDocuments?, ofDocument?_document s, ofDocuments?_documents rest]
    rfl

end

theorem ofJson?_pretty (s : Snapshot) : ofJson? (Format.Json.pretty s.document) = some s := by
  rw [ofJson?, Format.Json.read?_pretty, Option.bind_some, ofDocument?_document]

end Snapshot

/-! ## Tokens -/

namespace TokenRecord

/-- The token that a document shows. -/
def ofDocument? : Document → Option TokenRecord
  | .record fields => do
    let type ← textAt? fields "type" none
    let value ← textAt? fields "value" none
    let offset ← numberAt? fields "offset"
    let stop ← numberAt? fields "end"
    return ⟨type, value, offset, stop⟩
  | _ => none

/-- The tokens that a JSON text shows. -/
def ofJson? (text : String) : Option (List TokenRecord) :=
  match Format.Json.read? text with
  | some (.list items) => items.mapM ofDocument?
  | _ => none

theorem ofDocument?_document (r : TokenRecord) : ofDocument? r.document = some r := by
  simp [document, ofDocument?, textAt?, numberAt?, List.lookup_cons]

theorem ofJson?_pretty (records : List TokenRecord) :
    ofJson? (Format.Json.pretty (.list (records.map document))) = some records := by
  rw [ofJson?, Format.Json.read?_pretty]
  show (records.map document).mapM ofDocument? = some records
  induction records with
  | nil => rfl
  | cons r records ih =>
    rw [List.map_cons, List.mapM_cons, ofDocument?_document, ih]
    rfl

end TokenRecord

/-! ## All together -/

/-- A reachable tree whose nodes are at most 128 levels deep is rendered as JSON, and the snapshot
`s` that `ofJson?` reads from the text is the tree: the same nesting, the same order, and the same
type, payload and span of every node. So trees with the same text have the same `shownWalk`. What
`TokenRecord.ofJson?` reads from the text for some `tokens` are their types, values and ends. -/
theorem json_reads_back :
    (∀ t : Tree, t.Reachable → (∀ id < t.size, t.depth id ≤ 128) →
      ∃ out s, TreeFormat.json.render t = .ok out ∧ Snapshot.ofJson? out = some s ∧
        t.Unfolds Node.shown Tree.root s.rose) ∧
    (∀ t u : Tree, t.Reachable → (∀ id < t.size, t.depth id ≤ 128) →
      u.Reachable → (∀ id < u.size, u.depth id ≤ 128) →
      TreeFormat.json.render t = TreeFormat.json.render u → t.shownWalk = u.shownWalk) ∧
    ∀ (tokens : List Token) (palette : Palette),
      TokenRecord.ofJson? (TokenFormat.json.render tokens palette) =
        some (tokens.map fun t => ⟨t.type.name, t.value, t.offset, t.offset + t.value.length⟩) := by
  have hread : ∀ t : Tree, t.Reachable → (∀ id < t.size, t.depth id ≤ 128) →
      ∃ out s, TreeFormat.json.render t = .ok out ∧ Snapshot.ofJson? out = some s ∧
        t.Unfolds Node.shown Tree.root s.rose := by
    intro t ht hdepth
    obtain ⟨s, hs, hunfolds⟩ := ht.wellFormed.exists_snapshot hdepth
    refine ⟨Format.Json.pretty s.document, s, ?_, s.ofJson?_pretty, hunfolds⟩
    rw [TreeFormat.render, Tree.document, hs]
    rfl
  refine ⟨hread, fun t u ht hdepth hu hdepth' heq => ?_, fun tokens palette => ?_⟩
  · obtain ⟨out, s, hrender, hs, hunfolds⟩ := hread t ht hdepth
    obtain ⟨out', s', hrender', hs', hunfolds'⟩ := hread u hu hdepth'
    rw [hrender, hrender'] at heq
    obtain rfl := Except.ok.inj heq
    obtain rfl := Option.some.inj (hs.symm.trans hs')
    rw [ht.wellFormed.shownWalk_eq hunfolds, hu.wellFormed.shownWalk_eq hunfolds']
  · have hdocuments : tokens.map (fun t => (TokenRecord.of t).document) =
        (tokens.map TokenRecord.of).map TokenRecord.document := by
      rw [List.map_map]
      rfl
    rw [TokenFormat.render, hdocuments]
    exact TokenRecord.ofJson?_pretty (tokens.map TokenRecord.of)

/-- Under the root a text that looks like JSON, and under that a node with the given `payload`. -/
def nestedTree (payload : Payload) : Tree :=
  let t := Tree.singleton (.bare ⟨"ROOT"⟩ .zero)
  let t := (t.append 0 ⟨⟨"STRING"⟩, .text "\"\\\", \"length\": 0\n", ⟨0, 17⟩⟩).2
  (t.append 1 ⟨⟨"ATOM"⟩, payload, ⟨17, 4⟩⟩).2

theorem nestedTree_reachable (payload : Payload) : (nestedTree payload).Reachable :=
  ((Tree.Reachable.singleton _).append _ _).append _ _

/-- Documents do not show of what kind a payload is. -/
theorem json_reads_back_nestedTree :
    nestedTree (.bool true) ≠ nestedTree (.text "true") ∧
      TreeFormat.json.render (nestedTree (.bool true)) =
        TreeFormat.json.render (nestedTree (.text "true")) ∧
      (nestedTree (.bool true)).shownWalk = (nestedTree (.text "true")).shownWalk ∧
      ∃ out s, TreeFormat.json.render (nestedTree (.bool true)) = .ok out ∧
        Snapshot.ofJson? out = some s ∧
        (nestedTree (.bool true)).Unfolds Node.shown Tree.root s.rose := by
  have hbool : ∀ id < (nestedTree (.bool true)).size,
      (nestedTree (.bool true)).depth id ≤ 128 := by decide
  have htext : ∀ id < (nestedTree (.text "true")).size,
      (nestedTree (.text "true")).depth id ≤ 128 := by decide
  have hrender : TreeFormat.json.render (nestedTree (.bool true)) =
      TreeFormat.json.render (nestedTree (.text "true")) := by rfl
  obtain ⟨hread, hwalk, -⟩ := json_reads_back
  exact ⟨by decide, hrender,
    hwalk _ _ (nestedTree_reachable _) hbool (nestedTree_reachable _) htext hrender,
    hread _ (nestedTree_reachable _) hbool⟩

end LexTree
