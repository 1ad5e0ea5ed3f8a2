import LexTree.Proofs.Sexp.Form
import LexTree.Proofs.Sexp.Listing

/-!
# Reading what was written

Written items are read as the trees that they stand for.

- `Lists` is what a part of a text means to the pass over tokens, whatever stands
  before it: the labels it adds with their depths, and the lists it leaves open.
- `Lists.append` puts parts together; `Lists.start`, `Lists.stop`, `Lists.space`
  and `Lists.atom` are the parts that texts are made of.
- `lists_written` and `lists_writtenAll` follow the nesting of items.
- `parse_written`: a written forest is read back.
-/

namespace LexTree

/-- What `node` says, apart from its place in the text. -/
def Node.content (node : Node) : NodeType × Payload := (node.type, node.payload)

namespace Sexp

/-- What the pass `s` has listed, apart from places in the text. -/
def Listing.labels (s : Listing) : List ((NodeType × Payload) × Nat) :=
  s.entries.map fun entry => (entry.node.content, entry.depth)

theorem Listing.labels_add (s : Listing) (type : NodeType) (value : String) (span : Span) :
    (s.add type value span).labels = s.labels ++ [((type, .text value), s.depth + 1)] := by
  rw [labels, add, List.map_append]
  rfl

/-! ## Parts of texts -/

/-- Before `rest`, the runes of `w` are whole lexemes. They list `labels`, and take the pass from
`depth` to `after` open lists. -/
def Lists (w rest : List Char) (depth after : Nat)
    (labels : List ((NodeType × Payload) × Nat)) : Prop :=
  ∀ (offset : Nat) (s : Listing), s.depth = depth →
    ∃ (stop : Nat) (t : Listing), t.depth = after ∧ t.labels = s.labels ++ labels ∧
      (stream offset (w ++ rest)).status = (stream stop rest).status ∧
      (stream offset (w ++ rest)).all.foldl Listing.step s =
        (stream stop rest).all.foldl Listing.step t

namespace Lists

variable {w v rest : List Char} {depth middle after : Nat}
  {labels labels' : List ((NodeType × Payload) × Nat)}

theorem nil (rest : List Char) (depth : Nat) : Lists [] rest depth depth [] :=
  fun offset s hs => ⟨offset, s, hs, (List.append_nil _).symm, rfl, rfl⟩

/-- Parts `w` and `v` next to each other list one after the other. -/
theorem append (hw : Lists w (v ++ rest) depth middle labels)
    (hv : Lists v rest middle after labels') :
    Lists (w ++ v) rest depth after (labels ++ labels') := by
  intro offset s hs
  obtain ⟨middleOffset, t, ht, htlabels, htstatus, htfold⟩ := hw offset s hs
  obtain ⟨stop, u, hu, hulabels, hustatus, hufold⟩ := hv middleOffset t ht
  refine ⟨stop, u, hu, ?_, ?_, ?_⟩
  · rw [hulabels, htlabels, List.append_assoc]
  · rw [List.append_assoc, htstatus, hustatus]
  · rw [List.append_assoc, htfold, hufold]

/-- A lexeme lists what its token does. -/
theorem lexeme {x : Lexeme} (hx : lexeme? (w ++ rest) = some x) (hlength : x.length = w.length)
    (hstep : ∀ (offset : Nat) (s : Listing), s.depth = depth →
      (s.step (x.token offset)).depth = after ∧
        (s.step (x.token offset)).labels = s.labels ++ labels) :
    Lists w rest depth after labels := by
  intro offset s hs
  obtain ⟨hdepth, hlabels⟩ := hstep offset s hs
  have hdrop : (w ++ rest).drop x.length = rest := by rw [hlength, List.drop_left]
  have hstream : stream offset (w ++ rest) =
      (stream (offset + x.length) rest).cons (x.token offset) := by
    cases htext : w ++ rest with
    | nil =>
      rw [htext] at hx
      cases hx
    | cons c text =>
      rw [htext] at hx hdrop
      rw [← hdrop, stream, hx]
  refine ⟨offset + x.length, s.step (x.token offset), hdepth, hlabels, ?_, ?_⟩
  · rw [hstream]
    rfl
  · rw [hstream, Stream.all_cons, List.foldl_cons]

theorem start (rest : List Char) (depth : Nat) :
    Lists ['('] rest depth (depth + 1) [((listNodeType, .text ""), depth + 1)] := by
  have hx : lexeme? (['('] ++ rest) = some (.one startType '(') := by
    rw [List.singleton_append, lexeme?, if_pos rfl]
  refine lexeme hx rfl fun offset s hs => ?_
  rw [Listing.step_of_start s rfl, ← hs]
  exact ⟨rfl, s.labels_add listNodeType "" _⟩

theorem stop (rest : List Char) (depth : Nat) : Lists [')'] rest (depth + 1) depth [] := by
  have hx : lexeme? ([')'] ++ rest) = some (.one stopType ')') := by
    rw [List.singleton_append, lexeme?, if_neg (by decide), if_pos rfl]
  refine lexeme hx rfl fun offset s hs => ?_
  rw [Listing.step_of_stop s rfl, hs]
  exact ⟨rfl, (List.append_nil _).symm⟩

/-- A space that no other blank follows lists nothing. -/
theorem space (hrest : ∀ c ∈ rest.head?, Text.isBlank c = false) (depth : Nat) :
    Lists [' '] rest depth depth [] := by
  have hx : lexeme? ([' '] ++ rest) = some (.run blankType Text.isBlank ' ' rest) := by
    rw [List.singleton_append, lexeme?, if_neg (by decide), if_neg (by decide),
      if_pos (by decide)]
  have hrun := run_append blankType ' ' (List.forall_mem_nil _) hrest
  refine lexeme hx hrun.2 fun offset s hs => ?_
  rw [Listing.step_of_blank s rfl]
  exact ⟨hs, (List.append_nil _).symm⟩

theorem atom (a : Atom) (hrest : Breaks rest) (depth : Nat) :
    Lists a.written rest depth depth [((a.nodeType, .text a.value), depth + 1)] := by
  obtain ⟨x, hx, htype, hvalue, hlength⟩ := a.lexeme?_written hrest
  refine lexeme hx hlength fun offset s hs => ?_
  have hstep : s.step (x.token offset) = s.addAtom a.nodeType (x.token offset) := by
    have htype : (x.token offset).type = a.tokenType := htype
    rw [Listing.step, htype]
    cases a <;> rfl
  rw [hstep, Listing.addAtom]
  refine ⟨hs, ?_⟩
  rw [Listing.labels_add, hs]
  show _ ++ [((a.nodeType, Payload.text x.value), depth + 1)] = _
  rw [hvalue]

end Lists

/-! ## Written items -/

/-- What follows the items of a list, and those of a text: the end of the list, or nothing. -/
def Closes (rest : List Char) : Prop := ∀ c ∈ rest.head?, c = ')'

theorem Closes.breaks {rest : List Char} (h : Closes rest) : Breaks rest :=
  fun c hc => .inr (h c hc)

namespace Item

/-- No written item starts with a blank. -/
theorem exists_written (item : Item) :
    ∃ c w, item.written = c :: w ∧ Text.isBlank c = false := by
  cases item with
  | atom a =>
    rw [written]
    exact a.exists_written
  | list items =>
    rw [written]
    exact ⟨'(', _, rfl, by decide⟩

/-- No written items next to each other start with a blank. -/
theorem isBlank_head?_writtenAll (item : Item) (items : List Item) (rest : List Char) :
    ∀ c ∈ (writtenAll (item :: items) ++ rest).head?, Text.isBlank c = false := by
  obtain ⟨c, w, hwritten, hblank⟩ := item.exists_written
  intro d hd
  cases items <;>
  · rw [writtenAll, hwritten] at hd
    cases hd
    exact hblank

end Item

mutual

/-- `item.written` lists `item.shape`. -/
theorem lists_written : ∀ (item : Item) {rest : List Char} (depth : Nat), Breaks rest →
    Lists item.written rest depth depth (item.shape.flatten (depth + 1))
  | .atom a, rest, depth, hrest => by
    rw [Item.written, Item.shape, Rose.flatten, Rose.flattenAll]
    exact Lists.atom a hrest depth
  | .list items, rest, depth, _ => by
    have hcloses : Closes ([')'] ++ rest) := by
      intro c hc
      cases hc
      rfl
    have hinside := lists_writtenAll items (depth + 1) hcloses
    rw [Item.written, Item.shape, Rose.flatten]
    have hlist := (Lists.start _ depth).append (hinside.append (Lists.stop rest depth))
    rw [List.append_nil] at hlist
    exact hlist

/-- `Item.writtenAll` lists `Item.shapeAll`. -/
theorem lists_writtenAll : ∀ (items : List Item) {rest : List Char} (depth : Nat), Closes rest →
    Lists (Item.writtenAll items) rest depth depth
      (Rose.flattenAll (depth + 1) (Item.shapeAll items))
  | [], rest, depth, _ => by
    rw [Item.writtenAll, Item.shapeAll, Rose.flattenAll]
    exact Lists.nil rest depth
  | [item], rest, depth, hrest => by
    rw [Item.writtenAll, Item.shapeAll, Item.shapeAll, Rose.flattenAll, Rose.flattenAll,
      List.append_nil]
    exact lists_written item depth hrest.breaks
  | item :: next :: items, rest, depth, hrest => by
    have hspace : Breaks ([' '] ++ Item.writtenAll (next :: items) ++ rest) := by
      intro c hc
      cases hc
      exact .inl rfl
    have hitem := lists_written item depth hspace
    have hitems := lists_writtenAll (next :: items) depth hrest
    rw [Item.writtenAll, Item.shapeAll, Rose.flattenAll]
    exact hitem.append
      ((Lists.space (Item.isBlank_head?_writtenAll next items rest) depth).append hitems)

end

/-! ## Whole texts -/

/-- The text of a forest. -/
def text (forest : List Item) : String := String.ofList (Item.writtenAll forest)

example : text [.list [.atom (.symbol ['f'] rfl), .list [], .atom (.number ['0', '.', '5'] rfl)],
    .atom (.string ['"'] (by decide))] = "(f () 0.5) \"\\\"\"" := by decide

/-- `text forest` is scanned to its end, with no list left open, and lists the shapes of
`forest`. -/
theorem stream_text (forest : List Item) :
    (stream 0 (text forest).toList).status = .complete ∧
      (Listing.ofTokens (stream 0 (text forest).toList).all).depth = 0 ∧
      (Listing.ofTokens (stream 0 (text forest).toList).all).labels =
        Rose.flattenAll 1 (forest.map Item.shape) := by
  have hcloses : Closes [] := by
    intro c hc
    cases hc
  obtain ⟨stop, t, hdepth, hlabels, hstatus, hfold⟩ :=
    lists_writtenAll forest 0 hcloses 0 .empty rfl
  have hend : (stream stop []).all.foldl Listing.step t = t := by
    rw [stream, Stream.all_ofLast, List.foldl_cons, List.foldl_nil]
    rfl
  rw [List.append_nil] at hstatus hfold
  rw [hend] at hfold
  rw [text, String.toList_ofList, Listing.ofTokens, hfold, hstatus, stream]
  refine ⟨rfl, hdepth, ?_⟩
  rw [hlabels, Item.shapeAll_eq_map]
  rfl

/-- `parse` reads `text forest` to its end with nothing to report and no list left open, and under
the root stand the shapes of the items of `forest` in order. -/
theorem parse_written (forest : List Item) :
    (parse (text forest)).status = .complete ∧
      (parse (text forest)).diagnostics = #[] ∧
      (parse (text forest)).unclosed = 0 ∧
      (parse (text forest)).tree.Unfolds Node.content Tree.root
        (.node (rootNodeType, .text "") (forest.map Item.shape)) := by
  obtain ⟨hstatus, hdepth, hlabels⟩ := stream_text forest
  obtain ⟨log, hparse⟩ := parse_eq_feed (text forest)
  have hmirrors := mirrors_stream 0 (text forest).toList
  have houtlines := hmirrors.outlines
  have hflatten : (Rose.node (rootNodeType, .text "") (forest.map Item.shape)).flatten 0 =
      (rootEntry :: (Listing.ofTokens (stream 0 (text forest).toList).all).entries).map
        fun entry => (entry.node.content, entry.depth) := by
    rw [Rose.flatten, ← hlabels]
    rfl
  rw [hparse]
  refine ⟨hstatus, ?_, ?_, houtlines.unfolds hflatten⟩
  · show (Parser.sink.feed parser _).diagnostics = _
    rw [hmirrors.diagnostics_eq, Listing.diagnostics_ofTokens, if_pos hstatus]
  · exact houtlines.depth_eq.trans hdepth

end Sexp

end LexTree
