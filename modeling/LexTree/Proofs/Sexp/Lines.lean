import LexTree.Proofs.Sexp.Listing
import LexTree.Proofs.Tree.Dump
import LexTree.Proofs.Tree.Subtree
import Mathlib.Algebra.GroupWithZero.Nat

/-!
# Lines of a listing

The listing of a tree shows payloads as they are. A payload with a line break takes
up more than one line, and what is behind the break reads as it likes.

- `Text.rows` are the parts of a text between its line breaks, and `Node.row` is what
  the listing has for a node.
- `Tree.dump_eq_join_rows` and `Tree.rows_dump`: the listing of any tree by the rows
  of its nodes.
- `Listing.breaks_foldl`: of the tokens of a text only string literals bring line
  breaks into the tree.
- `rows_dump_parse`: the listing of a text has one line for each node if and only if
  no literal has a line break. In one that has, the lines of the listing may be
  those of other nodes (`rows_dump_parse_ne`).
-/

namespace LexTree

/-! ## Rows of a text -/

/-- The parts of `text` between its line breaks. -/
def Text.rows (text : String) : List String := (text.toList.splitOn '\n').map String.ofList

theorem Text.rows_append_newline (a b : String) : rows (a ++ "\n" ++ b) = rows a ++ rows b := by
  have hlist : (a ++ "\n" ++ b).toList = a.toList ++ '\n' :: b.toList := by simp
  have hbreak : ('\n' == '\n') = true := rfl
  rw [rows, hlist, List.splitOn_eq_splitOnP,
    List.splitOnP_append_cons (p := (· == '\n')) _ _ hbreak, List.map_append]
  rfl

theorem Text.length_rows (text : String) : (rows text).length = text.toList.count '\n' + 1 := by
  have hsplit : ∀ w : List Char,
      (w.splitOnP (· == '\n')).length = w.count '\n' + 1 := by
    intro w
    induction w with
    | nil => rfl
    | cons c w ih =>
      rw [List.splitOnP_cons_eq_if_modifyHead, List.count_cons]
      split
      · rw [List.length_cons, ih]
      · rw [List.length_modifyHead, ih, Nat.add_zero]
  rw [rows, List.length_map, List.splitOn_eq_splitOnP, hsplit]

theorem Text.rows_of_not_mem {text : String} (h : '\n' ∉ text.toList) : rows text = [text] := by
  have hsingle : text.toList.splitOn '\n' = [text.toList] := by
    rw [List.splitOn_eq_splitOnP]
    refine List.splitOnP_eq_singleton fun c hc => ?_
    rw [beq_eq_false_iff_ne]
    rintro rfl
    exact h hc
  rw [rows, hsingle, List.map_singleton, String.ofList_toList]

/-- `texts` that are each ended by a line break have their `rows` one after the other. -/
theorem Text.rows_join (texts : List String) :
    rows (String.join (texts.map (· ++ "\n"))) = texts.flatMap rows ++ [""] := by
  induction texts with
  | nil => rfl
  | cons text texts ih =>
    rw [List.map_cons, String.join_cons, rows_append_newline, ih, List.flatMap_cons,
      List.append_assoc]

theorem Text.length_flatMap_rows (texts : List String) : (texts.flatMap rows).length =
    texts.length + (texts.map fun text => text.toList.count '\n').sum := by
  induction texts with
  | nil => rfl
  | cons text texts ih =>
    rw [List.flatMap_cons, List.length_append, length_rows, ih, List.length_cons, List.map_cons,
      List.sum_cons]
    omega

/-- `texts` are their own `rows` if and only if none of them has a line break. -/
theorem Text.flatMap_rows_eq_self_iff (texts : List String) :
    texts.flatMap rows = texts ↔ ∀ text ∈ texts, '\n' ∉ text.toList := by
  constructor
  · intro h text htext
    have hlength := length_flatMap_rows texts
    rw [h] at hlength
    have hsum : (texts.map fun text => text.toList.count '\n').sum = 0 := by omega
    have hzero := List.sum_eq_zero_iff_forall_eq_nat.mp hsum _ (List.mem_map_of_mem htext)
    exact List.count_eq_zero.mp hzero
  · intro h
    calc texts.flatMap rows = texts.flatMap fun text => [text] :=
          List.flatMap_congr fun text htext => rows_of_not_mem (h text htext)
      _ = texts := List.flatMap_singleton' texts

/-! ## Rows of a listing -/

/-- What a listing has for the node `n`: two spaces for each level, the type in brackets and, if
there is one, a space and the payload. -/
def Node.row (n : Node) (depth : Nat) : String :=
  String.join (List.replicate depth "  ") ++ "[" ++ n.type.name ++ "]" ++
    if n.render = "" then "" else " " ++ n.render

theorem Node.line_eq_row (n : Node) (depth : Nat) : n.line depth = n.row depth ++ "\n" := by
  rw [line, linePieces, String.join_append, String.join_append, row, ← String.toList_inj]
  by_cases hempty : n.render = ""
  · simp [hempty]
  · simp [hempty]

theorem Node.count_row (n : Node) (depth : Nat) :
    (n.row depth).toList.count '\n' =
      n.type.name.toList.count '\n' + n.render.toList.count '\n' := by
  have hindent : ((List.replicate depth "  ").flatMap String.toList).count '\n' = 0 := by
    simp [List.count_flatMap]
  rw [row]
  by_cases hempty : n.render = ""
  · simp [hempty, hindent]
  · simp [hempty, hindent]

namespace Tree

variable {t : Tree}

/-- What the listing of `t` has for all nodes, in the order of the walk. -/
def rows (t : Tree) : List String := t.walk.toList.map fun x => (t.nodeAt x.1).row x.2

theorem dump_eq_join_rows (t : Tree) : t.dump = String.join (t.rows.map (· ++ "\n")) := by
  rw [dump_eq_lines, lines, rows, List.map_map]
  simp only [Node.line_eq_row]
  rfl

theorem rows_dump (t : Tree) : Text.rows t.dump = t.rows.flatMap Text.rows ++ [""] := by
  rw [dump_eq_join_rows, Text.rows_join]

theorem count_dump (t : Tree) : t.dump.toList.count '\n' =
    t.rows.length + (t.rows.map fun row => row.toList.count '\n').sum := by
  have hlength := congrArg List.length t.rows_dump
  rw [Text.length_rows, List.length_append, Text.length_flatMap_rows] at hlength
  exact Nat.succ.inj hlength

theorem rows_dump_eq_iff (t : Tree) :
    Text.rows t.dump = t.rows ++ [""] ↔
      (t.rows.map fun row => row.toList.count '\n').sum = 0 := by
  rw [rows_dump, List.append_cancel_right_eq, Text.flatMap_rows_eq_self_iff,
    List.sum_eq_zero_iff_forall_eq_nat, List.forall_mem_map]
  simp only [List.count_eq_zero]

theorem WellFormed.length_rows (ht : t.WellFormed) : t.rows.length = t.size := by
  have hlength := ht.perm_walk.length_eq
  rw [List.length_map, List.length_range] at hlength
  rw [rows, List.length_map, hlength]

/-- A tree that lists `entries` has their rows. -/
theorem Outlines.rows_eq {current depth : Nat} {entries : List Entry}
    (h : t.Outlines current entries depth) :
    t.rows = entries.map fun entry => entry.node.row entry.depth := by
  have hmap := h.map_walk.2
  have hrow : ∀ x ∈ t.walk.toList, some ((t.nodeAt x.1).row x.2) =
      (t.entryAt? x).map fun entry => entry.node.row entry.depth := by
    intro x hx
    have hmem : t.entryAt? x ∈ entries.map some := hmap ▸ List.mem_map_of_mem hx
    obtain ⟨entry, -, hentry⟩ := List.mem_map.mp hmem
    obtain ⟨node, hnode, -⟩ := Option.map_eq_some_iff.mp hentry.symm
    have hat : t.nodeAt x.1 = node := by
      rw [node?] at hnode
      rw [nodeAt, hnode, Option.getD_some]
    rw [entryAt?, hnode, hat]
    rfl
  have hsome : Function.Injective (some : String → Option String) :=
    fun _ _ h => Option.some.inj h
  refine List.map_injective_iff.mpr hsome ?_
  calc t.rows.map some
      = (t.walk.toList.map t.entryAt?).map
          (Option.map fun entry => entry.node.row entry.depth) := by
        rw [rows, List.map_map, List.map_map]
        exact List.map_congr_left hrow
    _ = (entries.map fun entry => entry.node.row entry.depth).map some := by
        rw [hmap, List.map_map, List.map_map]
        rfl

end Tree

namespace Sexp

/-! ## Line breaks of tokens -/

/-- The line breaks that `token` brings into a listing. -/
def tokenBreaks (token : Token) : Nat :=
  if token.type = stringType then token.value.toList.count '\n' else 0

/-- Numbers and symbols have no line breaks. -/
def Unbroken (token : Token) : Prop :=
  token.type = numberType ∨ token.type = symbolType → '\n' ∉ token.value.toList

theorem unbroken_of_lexeme? {w : List Char} {x : Lexeme} (h : lexeme? w = some x) (offset : Nat) :
    Unbroken (x.token offset) := by
  cases w with
  | nil => cases h
  | cons c w =>
    intro htype
    rcases lexeme?_cases h with ⟨-, rfl⟩ | ⟨-, rfl⟩ | ⟨-, rfl⟩ | ⟨hdigit, rfl⟩ | ⟨hsymbol, rfl⟩ |
      hquoted
    · exact absurd htype (show ¬ (startType = numberType ∨ startType = symbolType) by decide)
    · exact absurd htype (show ¬ (stopType = numberType ∨ stopType = symbolType) by decide)
    · exact absurd htype (show ¬ (blankType = numberType ∨ blankType = symbolType) by decide)
    · have hc : isNumberRune c = true := by rw [isNumberRune, hdigit, Bool.true_or]
      exact Lexeme.not_mem_run (by decide) hc numberType w
    · exact Lexeme.not_mem_run (by decide) hsymbol symbolType w
    · obtain ⟨j, -, rfl⟩ := Option.map_eq_some_iff.mp hquoted
      exact absurd htype (show ¬ (stringType = numberType ∨ stringType = symbolType) by decide)

theorem unbroken_of_mem_stream (offset : Nat) (w : List Char) :
    ∀ token ∈ (stream offset w).all, Unbroken token := by
  induction offset, w using stream.induct with
  | case1 offset =>
    rw [stream, Stream.all_ofLast]
    refine List.forall_mem_singleton.mpr fun htype => ?_
    exact absurd htype (show ¬ (endType = numberType ∨ endType = symbolType) by decide)
  | case2 offset c w x hx ih =>
    rw [stream, hx, Stream.all_cons]
    exact List.forall_mem_cons.mpr ⟨unbroken_of_lexeme? hx offset, ih⟩
  | case3 offset c w hx =>
    rw [stream, hx, Stream.all_ofLast]
    refine List.forall_mem_singleton.mpr fun htype => ?_
    exact absurd htype (show ¬ (errorType = numberType ∨ errorType = symbolType) by decide)

namespace Listing

/-- The line breaks in the rows of what is listed. -/
def breaks (s : Listing) : Nat :=
  (s.entries.map fun entry => (entry.node.row entry.depth).toList.count '\n').sum

theorem breaks_add (s : Listing) {type : NodeType} (htype : type.name.toList.count '\n' = 0)
    (value : String) (span : Span) :
    (s.add type value span).breaks = s.breaks + value.toList.count '\n' := by
  rw [breaks, add, List.map_append, List.sum_append, List.map_singleton, List.sum_singleton,
    Node.count_row, htype, Nat.zero_add]
  rfl

/-- An `Unbroken` token brings its `tokenBreaks`. -/
theorem breaks_step (s : Listing) {token : Token} (h : Unbroken token) :
    (s.step token).breaks = s.breaks + tokenBreaks token := by
  rw [step, tokenBreaks]
  by_cases hstart : token.type = startType
  · rw [if_pos hstart, if_neg (by rw [hstart]; decide)]
    exact s.breaks_add (by decide) "" _
  by_cases hstop : token.type = stopType
  · rw [if_neg hstart, if_pos hstop, if_neg (by rw [hstop]; decide)]
    rfl
  rw [if_neg hstart, if_neg hstop]
  by_cases hnumber : token.type = numberType
  · rw [if_pos hnumber, if_neg (by rw [hnumber]; decide), addAtom, s.breaks_add (by decide),
      List.count_eq_zero.mpr (h (.inl hnumber))]
  by_cases hsymbol : token.type = symbolType
  · rw [if_neg hnumber, if_pos hsymbol, if_neg (by rw [hsymbol]; decide), addAtom,
      s.breaks_add (by decide), List.count_eq_zero.mpr (h (.inr hsymbol))]
  rw [if_neg hnumber, if_neg hsymbol]
  by_cases hstring : token.type = stringType
  · rw [if_pos hstring, if_pos hstring, addAtom, s.breaks_add (by decide)]
  · rw [if_neg hstring, if_neg hstring]
    split <;> rfl

theorem breaks_foldl (s : Listing) {tokens : List Token} (h : ∀ token ∈ tokens, Unbroken token) :
    (tokens.foldl step s).breaks = s.breaks + (tokens.map tokenBreaks).sum := by
  induction tokens generalizing s with
  | nil => rfl
  | cons token tokens ih =>
    obtain ⟨hfirst, hrest⟩ := List.forall_mem_cons.mp h
    rw [List.foldl_cons, ih (s.step token) hrest, breaks_step s hfirst, List.map_cons,
      List.sum_cons, Nat.add_assoc]

end Listing

theorem sum_tokenBreaks (tokens : List Token) :
    (tokens.map tokenBreaks).sum =
      ((tokens.filter (·.type = stringType)).map (·.value.toList.count '\n')).sum := by
  induction tokens with
  | nil => rfl
  | cons token tokens ih =>
    rw [List.map_cons, List.sum_cons, ih, tokenBreaks, List.filter_cons]
    by_cases hstring : token.type = stringType
    · rw [if_pos hstring, if_pos (decide_eq_true hstring), List.map_cons, List.sum_cons]
    · rw [if_neg hstring, if_neg (by simpa using hstring), Nat.zero_add]

/-! ## Whole texts -/

/-- The rows of the tree of `source` have the line breaks of its string literals. -/
theorem breaks_parse (source : String) :
    (parse source).tree.WellFormed ∧
      ((parse source).tree.rows.map fun row => row.toList.count '\n').sum =
        (((tokenize source).output.toList.filter (·.type = stringType)).map
          (·.value.toList.count '\n')).sum := by
  obtain ⟨_, hparse⟩ := parse_eq_feed source
  obtain ⟨_, _, htokens⟩ := exists_tokenize_eq source
  have hmirrors := mirrors_stream 0 source.toList
  have hunbroken := unbroken_of_mem_stream 0 source.toList
  rw [hparse, htokens]
  refine ⟨hmirrors.outlines.wellFormed, ?_⟩
  rw [hmirrors.outlines.rows_eq, List.map_cons, List.map_cons, List.sum_cons, List.map_map,
    ← sum_tokenBreaks]
  have hroot : (rootEntry.node.row rootEntry.depth).toList.count '\n' = 0 := by decide
  rw [hroot, Nat.zero_add]
  exact (Listing.breaks_foldl .empty hunbroken).trans (Nat.zero_add _)

/-- `dump` has for each node of the tree `t` of `source`, in preorder, its `Node.row` and a line
break. Beside these, one for each node, it has the line breaks of the string literals of `source`.
So its lines are the rows of the nodes if and only if no literal has a line break. -/
theorem rows_dump_parse (source : String) :
    let t : Tree := (parse source).tree
    let rows := t.walk.toList.map fun x => (t.nodeAt x.1).row x.2
    let literals := (tokenize source).output.toList.filter (·.type = stringType)
    t.dump = String.join (rows.map (· ++ "\n")) ∧ rows.length = t.size ∧
      t.dump.toList.count '\n' = t.size + (literals.map (·.value.toList.count '\n')).sum ∧
      (Text.rows t.dump = rows ++ [""] ↔
        ∀ token ∈ literals, '\n' ∉ token.value.toList) := by
  intro t rows literals
  obtain ⟨hwf, hbreaks⟩ := breaks_parse source
  have hlength : rows.length = t.size := hwf.length_rows
  refine ⟨t.dump_eq_join_rows, hlength, ?_, ?_⟩
  · rw [t.count_dump, hwf.length_rows, hbreaks]
  · have hiff := t.rows_dump_eq_iff
    rw [hbreaks, List.sum_eq_zero_iff_forall_eq_nat, List.forall_mem_map] at hiff
    simp only [List.count_eq_zero] at hiff
    exact hiff

/-- A root, and under it a string literal that holds what a list would be listed as. -/
def literalTree : Tree :=
  ((Tree.singleton (.bare rootNodeType .zero)).append Tree.root
    ⟨stringNodeType, .text "\"\n  [LIST]\n\"", ⟨0, 12⟩⟩).2

/-- A literal with two line breaks, and between them what a list would be listed as: five rows for
two nodes, and no list among these. -/
theorem rows_dump_parse_ne :
    let t : Tree := (parse "\"\n  [LIST]\n\"").tree
    t.size = 2 ∧ t.dump.toList.count '\n' = 4 ∧
      Text.rows t.dump = ["[ROOT]", "  [STRING] \"", "  [LIST]", "\"", ""] ∧
      ∀ x ∈ t.walk.toList, (t.nodeAt x.1).type ≠ listNodeType := by
  obtain ⟨_, hparse⟩ := parse_eq_feed "\"\n  [LIST]\n\""
  have hstream : stream 0 "\"\n  [LIST]\n\"".toList =
      ⟨[⟨stringType, "\"\n  [LIST]\n\"", 0, 0, 0⟩], ⟨endType, "", 12, 0, 0⟩, .complete⟩ := by
    decide +kernel
  have htree : (parse "\"\n  [LIST]\n\"").tree = literalTree := by
    rw [hparse, hstream]
    show (Parser.sink.feed parser _).tree = literalTree
    decide +kernel
  rw [htree]
  decide +kernel

end Sexp

end LexTree
