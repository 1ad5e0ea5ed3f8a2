import LexTree.Proofs.Parser.Step
import LexTree.Proofs.Sexp.Scanner
import LexTree.Proofs.Tree.Outline

/-!
# Trees of the sample grammar

A tree is built with a cursor and the links of its nodes, and then walked. What
the walk finds can be told from the tokens in one pass with a counter.

- `Listing` is that pass: the nodes listed so far, the number of open lists, and
  the tokens that were of no use.
- `Mirrors`: a parser's tree lists what the pass has listed; `Mirrors.step` and
  `Mirrors.feed` keep it so.
- `parse_eq_listing`: the tree of a text and all that is reported with it.
-/

namespace LexTree.Sexp

/-! ## The pass -/

/-- What a pass over tokens has listed under the root. -/
structure Listing where
  entries : List Entry
  /-- Lists that are open. -/
  depth : Nat
  diagnostics : Array Diagnostic
deriving DecidableEq, Repr

/-- The root of every tree. -/
def rootEntry : Entry := ⟨⟨rootNodeType, .text "", ⟨0, 0⟩⟩, 0⟩

namespace Listing

def empty : Listing := ⟨[], 0, #[]⟩

/-- Lists a node in the latest open list of `s`. -/
def add (s : Listing) (type : NodeType) (value : String) (span : Span) : Listing :=
  { s with entries := s.entries ++ [⟨⟨type, .text value, span⟩, s.depth + 1⟩] }

/-- Lists an atom, which carries its token's value and is as long. -/
def addAtom (s : Listing) (type : NodeType) (token : Token) : Listing :=
  s.add type token.value ⟨token.offset, token.value.length⟩

/-- Takes one token. What is no bracket, atom or blank and does not end a complete text is an
error. -/
def step (s : Listing) (token : Token) : Listing :=
  if token.type = startType then
    { s.add listNodeType "" ⟨token.offset, 1⟩ with depth := s.depth + 1 }
  else if token.type = stopType then { s with depth := s.depth - 1 }
  else if token.type = numberType then s.addAtom numberNodeType token
  else if token.type = symbolType then s.addAtom symbolNodeType token
  else if token.type = stringType then s.addAtom stringNodeType token
  else if token.type = blankType ∨ token.type = endType then s
  else { s with diagnostics := s.diagnostics.push ⟨.unmappedTokenType, token⟩ }

/-- Takes `tokens` in order. -/
def ofTokens (tokens : List Token) : Listing := tokens.foldl step empty

theorem step_of_start (s : Listing) {token : Token} (h : token.type = startType) :
    s.step token = { s.add listNodeType "" ⟨token.offset, 1⟩ with depth := s.depth + 1 } := by
  rw [step, if_pos h]

theorem step_of_stop (s : Listing) {token : Token} (h : token.type = stopType) :
    s.step token = { s with depth := s.depth - 1 } := by
  rw [step, h, if_neg (by decide), if_pos rfl]

theorem step_of_blank (s : Listing) {token : Token} (h : token.type = blankType) :
    s.step token = s := by
  rw [step, h]
  rfl

end Listing

/-! ## One token -/

/-- The tree of `p` lists what the pass `s` has listed, with the cursor in the latest open list. -/
structure Mirrors (p : Parser) (s : Listing) : Prop where
  factories_eq : p.factories = factories
  outlines : p.tree.Outlines p.current (rootEntry :: s.entries) s.depth
  diagnostics_eq : p.diagnostics = s.diagnostics

namespace Mirrors

variable {p : Parser} {s : Listing} {token : Token}

theorem start : Mirrors parser .empty := ⟨rfl, Tree.outlines_singleton _, rfl⟩

theorem factory?_eq (h : Mirrors p s) (type : TokenType) :
    p.factory? type = factories.lookup type := by
  rw [Parser.factory?, h.factories_eq]

/-- A token whose factory is `leaf make` lists the node of `make`. -/
theorem step_leaf (h : Mirrors p s) {make : Token → Node} {type : NodeType} {value : String}
    {span : Span} (hf : factories.lookup token.type = some (.leaf make))
    (hmake : make token = ⟨type, .text value, span⟩) :
    Mirrors (p.step token).parser (s.add type value span) := by
  have happend : p.tree.append p.current (make token) =
      (.ok p.tree.size, p.tree.grow p.current (make token)) :=
    Tree.append_of_lt h.outlines.current_lt
  have hr : Factory.leaf make p.tree p.current token =
      (none, p.tree.grow p.current (make token)) := by
    rw [Factory.leaf, happend]
  rw [Parser.step_of_none ((h.factory?_eq _).trans hf) hr, hmake]
  exact ⟨h.factories_eq, h.outlines.attach _, h.diagnostics_eq⟩

/-- `startType` opens a list. -/
theorem step_start (h : Mirrors p s) (htype : token.type = startType) (hlen : token.length = 1) :
    Mirrors (p.step token).parser (s.step token) := by
  have hlt := h.outlines.current_lt
  have hf : p.factory? token.type =
      some (.descend fun token => .bare listNodeType (.of token)) := by
    rw [h.factory?_eq, htype]
    rfl
  have hspan : Node.bare listNodeType (.of token) =
      ⟨listNodeType, .text "", ⟨token.offset, 1⟩⟩ := by
    rw [Node.bare, Span.of, hlen]
  have hr : Factory.descend (fun token => .bare listNodeType (.of token)) p.tree p.current token =
      (some p.tree.size, p.tree.grow p.current ⟨listNodeType, .text "", ⟨token.offset, 1⟩⟩) := by
    rw [Factory.descend, hspan, Tree.append_of_lt hlt]
    rfl
  have hentered := h.outlines.enter ⟨listNodeType, .text "", ⟨token.offset, 1⟩⟩
  rw [Parser.step_of_move hf hr hentered.current_lt, Listing.step_of_start s htype]
  exact ⟨h.factories_eq, hentered, h.diagnostics_eq⟩

/-- `stopType` closes the latest list, if there is one. -/
theorem step_stop (h : Mirrors p s) (htype : token.type = stopType) :
    Mirrors (p.step token).parser (s.step token) := by
  have hf : p.factory? token.type = some .ascend := by
    rw [h.factory?_eq, htype]
    rfl
  rw [Listing.step_of_stop s htype]
  cases hparent : p.tree.parent? p.current with
  | none =>
    have hdepth := h.outlines.depth_of_isRoot hparent
    have hsame : s.depth - 1 = s.depth := by omega
    rw [Parser.step_of_none hf (by rw [Factory.ascend, hparent]), hsame]
    exact h
  | some q =>
    have hleft := h.outlines.leave hparent
    rw [Parser.step_of_move hf (by rw [Factory.ascend, hparent]) hleft.current_lt]
    exact ⟨h.factories_eq, hleft, h.diagnostics_eq⟩

/-- A token whose factory is `ignore`. -/
theorem step_ignore (h : Mirrors p s) (hf : factories.lookup token.type = some .ignore) :
    Mirrors (p.step token).parser s := by
  rw [Parser.step_of_none ((h.factory?_eq _).trans hf) rfl]
  exact h

/-- One token keeps `p` and `s` in agreement. -/
theorem step (h : Mirrors p s) (hlen : token.type = startType → token.length = 1) :
    Mirrors (p.step token).parser (s.step token) := by
  by_cases hstart : token.type = startType
  · exact h.step_start hstart (hlen hstart)
  by_cases hstop : token.type = stopType
  · exact h.step_stop hstop
  rw [Listing.step, if_neg hstart, if_neg hstop]
  by_cases hnumber : token.type = numberType
  · rw [if_pos hnumber]
    exact h.step_leaf (by rw [hnumber]; rfl) rfl
  by_cases hsymbol : token.type = symbolType
  · rw [if_neg hnumber, if_pos hsymbol]
    exact h.step_leaf (by rw [hsymbol]; rfl) rfl
  by_cases hstring : token.type = stringType
  · rw [if_neg hnumber, if_neg hsymbol, if_pos hstring]
    exact h.step_leaf (by rw [hstring]; rfl) rfl
  rw [if_neg hnumber, if_neg hsymbol, if_neg hstring]
  by_cases hblank : token.type = blankType
  · rw [if_pos (.inl hblank)]
    exact h.step_ignore (by rw [hblank]; rfl)
  by_cases hend : token.type = endType
  · rw [if_pos (.inr hend)]
    exact h.step_ignore (by rw [hend]; rfl)
  have hf : p.factory? token.type = none := by
    rw [h.factory?_eq]
    simp only [factories, List.lookup_cons, List.lookup_nil, beq_eq_false_iff_ne.mpr hstart,
      beq_eq_false_iff_ne.mpr hstop, beq_eq_false_iff_ne.mpr hnumber,
      beq_eq_false_iff_ne.mpr hsymbol, beq_eq_false_iff_ne.mpr hstring,
      beq_eq_false_iff_ne.mpr hblank, beq_eq_false_iff_ne.mpr hend]
  rw [Parser.step_of_unmapped hf, if_neg (not_or.mpr ⟨hblank, hend⟩), h.diagnostics_eq]
  exact ⟨h.factories_eq, h.outlines, rfl⟩

/-- Any number of `tokens` keep `p` and `s` in agreement. -/
theorem feed (h : Mirrors p s) (tokens : List Token)
    (hlen : ∀ token ∈ tokens, token.type = startType → token.length = 1) :
    Mirrors (Parser.sink.feed p tokens) (tokens.foldl Listing.step s) := by
  induction tokens generalizing p s with
  | nil => exact h
  | cons token tokens ih =>
    obtain ⟨hfirst, hrest⟩ := List.forall_mem_cons.mp hlen
    exact ih (h.step hfirst) hrest

end Mirrors

/-! ## Whole texts -/

/-- The types of all tokens but those that end a stream. -/
def ordinaryTypes : List TokenType :=
  [startType, stopType, numberType, symbolType, blankType, stringType]

theorem ordinary_of_ne {type : TokenType} (hmem : type ∈ ordinaryTypes) (hne : type ≠ startType)
    (value : String) : type ∈ ordinaryTypes ∧ (type = startType → value.length = 1) :=
  ⟨hmem, fun h => absurd h hne⟩

/-- Every lexeme is of one of `ordinaryTypes`, and the start of a list is one rune. -/
theorem ordinary_of_lexeme? {w : List Char} {x : Lexeme} (h : lexeme? w = some x) :
    x.type ∈ ordinaryTypes ∧ (x.type = startType → x.value.length = 1) := by
  cases w with
  | nil => cases h
  | cons c w =>
    rcases lexeme?_cases h with ⟨-, rfl⟩ | ⟨-, rfl⟩ | ⟨-, rfl⟩ | ⟨-, rfl⟩ | ⟨-, rfl⟩ | hquoted
    · exact ⟨List.mem_cons_self, fun _ => String.length_singleton⟩
    · exact ordinary_of_ne (show stopType ∈ _ by decide) (by decide) _
    · exact ordinary_of_ne (show blankType ∈ _ by decide) (by decide) _
    · exact ordinary_of_ne (show numberType ∈ _ by decide) (by decide) _
    · exact ordinary_of_ne (show symbolType ∈ _ by decide) (by decide) _
    · obtain ⟨j, -, rfl⟩ := Option.map_eq_some_iff.mp hquoted
      exact ordinary_of_ne (show stringType ∈ _ by decide) (by decide) _

/-- All tokens of `stream` but the last are of `ordinaryTypes`, and the starts of lists are one
rune. -/
theorem ordinary_of_mem_stream (offset : Nat) (w : List Char) :
    ∀ token ∈ (stream offset w).tokens,
      token.type ∈ ordinaryTypes ∧ (token.type = startType → token.length = 1) := by
  induction offset, w using stream.induct with
  | case1 offset =>
    rw [stream]
    simp [Stream.ofLast]
  | case2 offset c w x hx ih =>
    rw [stream, hx]
    exact List.forall_mem_cons.mpr ⟨ordinary_of_lexeme? hx, ih⟩
  | case3 offset c w hx =>
    rw [stream, hx]
    simp [Stream.ofLast]

/-- The last token of `stream` tells how the scan ended. -/
theorem last_of_stream (offset : Nat) (w : List Char) :
    (stream offset w).status = .complete ∧ (stream offset w).last.type = endType ∨
      ∃ place, (stream offset w).status = .failed place ∧
        (stream offset w).last.type = errorType := by
  induction offset, w using stream.induct with
  | case1 offset =>
    rw [stream]
    exact .inl ⟨rfl, rfl⟩
  | case2 offset c w x hx ih =>
    rw [stream, hx]
    exact ih
  | case3 offset c w hx =>
    rw [stream, hx]
    exact .inr ⟨offset, rfl, rfl⟩

namespace Listing

/-- A token of `ordinaryTypes` is of use, and so is the one that ends a complete stream. -/
theorem diagnostics_step_of_mem (s : Listing) {token : Token}
    (h : token.type ∈ endType :: ordinaryTypes) :
    (s.step token).diagnostics = s.diagnostics := by
  simp only [ordinaryTypes, List.mem_cons, List.not_mem_nil, or_false] at h
  rw [step]
  rcases h with h | h | h | h | h | h | h <;> rw [h] <;> rfl

theorem diagnostics_step_of_error (s : Listing) {token : Token} (h : token.type = errorType) :
    (s.step token).diagnostics = s.diagnostics.push ⟨.unmappedTokenType, token⟩ := by
  rw [step, h]
  rfl

theorem diagnostics_foldl (s : Listing) {tokens : List Token}
    (h : ∀ token ∈ tokens, token.type ∈ ordinaryTypes) :
    (tokens.foldl step s).diagnostics = s.diagnostics := by
  induction tokens generalizing s with
  | nil => rfl
  | cons token tokens ih =>
    obtain ⟨hfirst, hrest⟩ := List.forall_mem_cons.mp h
    rw [List.foldl_cons, ih (s.step token) hrest,
      diagnostics_step_of_mem s (List.mem_cons_of_mem _ hfirst)]

/-- What a whole stream adds to the diagnostics is decided by its last token. -/
theorem diagnostics_ofTokens (offset : Nat) (w : List Char) :
    (ofTokens (stream offset w).all).diagnostics =
      if (stream offset w).status = .complete then #[]
      else #[⟨.unmappedTokenType, (stream offset w).last⟩] := by
  have hordinary : ((stream offset w).tokens.foldl step empty).diagnostics = #[] :=
    diagnostics_foldl empty fun token hmem => (ordinary_of_mem_stream offset w token hmem).1
  rw [ofTokens, Stream.all, List.foldl_append, List.foldl_cons, List.foldl_nil]
  rcases last_of_stream offset w with ⟨hstatus, hlast⟩ | ⟨place, hstatus, hlast⟩
  · rw [if_pos hstatus, diagnostics_step_of_mem _ (hlast ▸ List.mem_cons_self), hordinary]
  · have hne : (stream offset w).status ≠ .complete := by
      rw [hstatus]
      exact ScanStatus.noConfusion
    rw [if_neg hne, diagnostics_step_of_error _ hlast, hordinary]
    rfl

end Listing

/-- `parse` feeds the stream of `source` to the parser. -/
theorem parse_eq_feed (source : String) :
    ∃ log, parse source =
      let p := Parser.sink.feed parser (stream 0 source.toList).all
      ⟨p.tree, (stream 0 source.toList).status, p.diagnostics, p.tree.depth p.current, log⟩ := by
  obtain ⟨reader, log, h⟩ := lex_eq_stream Parser.sink source parser
  exact ⟨log, by rw [parse, h]⟩

/-- After a whole stream the parser and the pass are in agreement. -/
theorem mirrors_stream (offset : Nat) (w : List Char) :
    Mirrors (Parser.sink.feed parser (stream offset w).all)
      (Listing.ofTokens (stream offset w).all) := by
  refine Mirrors.start.feed _ fun token hmem => ?_
  rcases List.mem_append.mp hmem with hmem | hmem
  · exact (ordinary_of_mem_stream offset w token hmem).2
  · -- The token that ends a stream starts no list.
    intro hstart
    rw [List.mem_singleton.mp hmem] at hstart
    rcases last_of_stream offset w with ⟨-, hlast⟩ | ⟨_, -, hlast⟩
    · rw [hlast] at hstart
      exact absurd hstart (by decide)
    · rw [hlast] at hstart
      exact absurd hstart (by decide)

/-- The pass over the tokens of `source`. -/
def listing (source : String) : Listing := .ofTokens (tokenize source).output.toList

/-- The tree of `source` is what the `listing` of its tokens lists: the walk visits the ids in order
and finds the entries there, the open lists are counted, and of the tokens only the one that ends a
failed scan is reported. -/
theorem parse_eq_listing (source : String) :
    (parse source).tree.walk.toList.map (·.1) = List.range (parse source).tree.size ∧
      (parse source).tree.walk.toList.map (parse source).tree.entryAt? =
        (rootEntry :: (listing source).entries).map some ∧
      (parse source).unclosed = (listing source).depth ∧
      (parse source).status = (tokenize source).status ∧
      (parse source).diagnostics = (listing source).diagnostics ∧
      ((parse source).status = .complete ∧ (parse source).diagnostics = #[] ∨
        ∃ offset token, (parse source).status = .failed offset ∧
          (tokenize source).output.back? = some token ∧ token.type = errorType ∧
          (parse source).diagnostics = #[⟨.unmappedTokenType, token⟩]) := by
  obtain ⟨reader, log, hlex⟩ := lex_eq_stream .collect source #[]
  have htokens : (tokenize source).output = (stream 0 source.toList).all.toArray := by
    rw [tokenize, Lexer.tokenize, hlex, Sink.feed_collect, Array.empty_append]
  have hstatus : (tokenize source).status = (stream 0 source.toList).status := by
    rw [tokenize, Lexer.tokenize, hlex]
  have hlisting : listing source = .ofTokens (stream 0 source.toList).all := by
    rw [listing, htokens]
  obtain ⟨log', hparse⟩ := parse_eq_feed source
  have hmirrors := mirrors_stream 0 source.toList
  obtain ⟨hids, hentries⟩ := hmirrors.outlines.map_walk
  have hreported := hmirrors.diagnostics_eq.trans (Listing.diagnostics_ofTokens 0 source.toList)
  rw [hparse, hlisting, hstatus, htokens]
  refine ⟨hids, hentries, hmirrors.outlines.depth_eq, rfl, hmirrors.diagnostics_eq, ?_⟩
  rcases last_of_stream 0 source.toList with ⟨hcomplete, -⟩ | ⟨place, hfailed, hlast⟩
  · exact .inl ⟨hcomplete, hreported.trans (if_pos hcomplete)⟩
  · refine .inr ⟨place, _, hfailed, ?_, hlast, hreported.trans (if_neg ?_)⟩
    · rw [Stream.all]
      simp
    · rw [hfailed]
      exact ScanStatus.noConfusion

end LexTree.Sexp
