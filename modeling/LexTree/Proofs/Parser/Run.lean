import LexTree.Parser
import LexTree.Proofs.Lexer.Stream
import LexTree.Proofs.Tree.Growth
import Mathlib.Data.List.Basic
import Mathlib.Data.List.Induction

/-!
# Runs of a parser

Factories may do with the tree whatever clients may do, which is to attach nodes,
and may return any id. The parser checks the id, so that it never loses its place.

- `Factory.Attaching` are the factories that change a tree by attaching nodes only. By
  `Factory.Modelled.attaching` all of `LexTree.Factory` are of this kind.
- `Parser.call` is the call of a token's factory, and `Parser.refusal?` says by
  its result why the token is skipped, if it is.
- `Parser.step_cases` is all that a step does.
- `Parser.Steady` is what every step keeps of a parser, and `Steady.after` says
  that any number of steps do.
- `Parser.step_of_run`: one more step after any run.
-/

namespace LexTree

/-- A factory that changes trees only by attaching nodes. -/
def Factory.Attaching (f : Factory) : Prop :=
  ∀ (t : Tree) (current : NodeId) (token : Token), t.Grows (f t current token).2

namespace Factory

/-- The factories of `LexTree.Factory`, built-in or not. -/
inductive Modelled : Factory → Prop where
  | ignore : Modelled ignore
  | ascend : Modelled ascend
  | descend (make : Token → Node) : Modelled (descend make)
  | leaf (make : Token → Node) : Modelled (leaf make)
  | goto (id : NodeId) : Modelled (goto id)
  | toRoot : Modelled toRoot
  | appendTo (parent : NodeId) (moves : Bool) (make : Token → Node) :
      Modelled (appendTo parent moves make)
  | up (count : Nat) : Modelled (up count)
  | chain (make : Token → Node) (count : Nat) : Modelled (chain make count)

theorem Modelled.attaching {f : Factory} (hf : f.Modelled) : f.Attaching := by
  cases hf with
  | ignore | ascend | goto | toRoot | up => exact fun _ _ _ => .refl
  | descend | leaf | appendTo => exact fun _ _ _ => .append .refl _ _
  | chain => exact fun _ _ _ => .appendChain .refl _ _ _

end Factory

namespace Parser

variable {p : Parser} {token : Token}

/-! ## One step -/

theorem mem_of_factory? {type : TokenType} {factory : Factory}
    (hf : p.factory? type = some factory) : (type, factory) ∈ p.factories := by
  obtain ⟨older, newer, hsplit, -⟩ := List.lookup_eq_some_iff.mp hf
  rw [hsplit]
  exact List.mem_append_right _ List.mem_cons_self

/-- What the factory of `token` returns and makes of the tree. -/
def call (p : Parser) (token : Token) : Option NodeId × Tree :=
  match p.factory? token.type with
  | none => (none, p.tree)
  | some factory => factory p.tree p.current token

/-- Why `token` is skipped, if it is: its type has no factory, or its factory returns an id that is
not in the tree after the call. -/
def refusal? (p : Parser) (token : Token) : Option Diagnostic :=
  match p.factory? token.type with
  | none => some ⟨.unmappedTokenType, token⟩
  | some factory =>
    match factory p.tree p.current token with
    | (none, _) => none
    | (some id, tree) => if id < tree.size then none else some ⟨.unknownNode id, token⟩

/-- A step skips `token` and says why, or stays, or moves to an id of the tree. The tree is in any
case what the factory has made of it. -/
theorem step_cases (p : Parser) (token : Token) :
    (∃ d, p.refusal? token = some d ∧ (p.step token).outcome = .skipped d ∧
      (p.step token).parser =
        { p with tree := (p.call token).2, diagnostics := p.diagnostics.push d }) ∨
    (p.refusal? token = none ∧ (p.step token).outcome = .stayed ∧
      (p.step token).parser = { p with tree := (p.call token).2 }) ∨
    ∃ next < (p.call token).2.size, p.refusal? token = none ∧
      (p.step token).outcome = .moved next ∧
      (p.step token).parser = { p with tree := (p.call token).2, current := next } := by
  rw [call, refusal?, step]
  cases hf : p.factory? token.type with
  | none => exact .inl ⟨_, rfl, rfl, rfl⟩
  | some factory =>
    dsimp only
    rcases factory p.tree p.current token with ⟨_ | next, tree⟩
    · exact .inr (.inl ⟨rfl, rfl, rfl⟩)
    · rcases Nat.lt_or_ge next tree.size with hlt | hge
      · have hcontains : tree.contains next = true := decide_eq_true hlt
        dsimp only
        rw [if_pos hlt, if_pos hcontains]
        exact .inr (.inr ⟨next, hlt, rfl, rfl, rfl⟩)
      · have hcontains : tree.contains next = false := decide_eq_false (Nat.not_lt.mpr hge)
        simp only [hcontains, Nat.not_lt.mpr hge, if_false]
        exact .inl ⟨_, rfl, rfl, rfl⟩

theorem tree_step (p : Parser) (token : Token) :
    (p.step token).parser.tree = (p.call token).2 := by
  obtain ⟨d, -, -, h⟩ | ⟨-, -, h⟩ | ⟨next, -, -, -, h⟩ := p.step_cases token <;> rw [h]

theorem factories_step (p : Parser) (token : Token) :
    (p.step token).parser.factories = p.factories := by
  obtain ⟨d, -, -, h⟩ | ⟨-, -, h⟩ | ⟨next, -, -, -, h⟩ := p.step_cases token <;> rw [h]

/-- `step` adds `refusal?` to the diagnostics. -/
theorem diagnostics_step (p : Parser) (token : Token) :
    (p.step token).parser.diagnostics.toList =
      p.diagnostics.toList ++ (p.refusal? token).toList := by
  obtain ⟨d, hd, -, h⟩ | ⟨hd, -, h⟩ | ⟨next, -, hd, -, h⟩ := p.step_cases token
  · rw [h, hd, Array.toList_push]
    rfl
  · rw [h, hd]
    exact (List.append_nil _).symm
  · rw [h, hd]
    exact (List.append_nil _).symm

/-- A step that moves is at the id that it reports, and any other is where it was. -/
theorem current_step (p : Parser) (token : Token) :
    (p.step token).parser.current =
      match (p.step token).outcome with
      | .moved id => id
      | .stayed | .skipped _ => p.current := by
  obtain ⟨d, -, ho, h⟩ | ⟨-, ho, h⟩ | ⟨next, -, -, ho, h⟩ := p.step_cases token <;> rw [h, ho]

/-- If all factories are `Attaching`, a step does nothing else to the tree. -/
theorem grows_step (htable : ∀ x ∈ p.factories, x.2.Attaching) (token : Token) :
    p.tree.Grows (p.step token).parser.tree := by
  rw [tree_step, call]
  split
  · exact .refl
  · next factory hf => exact htable _ (mem_of_factory? hf) p.tree p.current token

/-! ## Any number of steps -/

/-- The parser after `tokens`. -/
def after (p : Parser) (tokens : List Token) : Parser := (p.parse tokens).1

theorem after_eq_foldl (p : Parser) (tokens : List Token) :
    p.after tokens = tokens.foldl (fun p token => (p.step token).parser) p := by
  -- The log goes along, and nothing else depends on it.
  have hany : ∀ log : Log, (tokens.foldl (fun (x : Parser × Log) token =>
      ((x.1.step token).parser, x.2 ++ (x.1.step token).log)) (p, log)).1 =
      tokens.foldl (fun p token => (p.step token).parser) p := by
    induction tokens generalizing p with
    | nil => exact fun _ => rfl
    | cons token tokens ih => exact fun log => ih (p.step token).parser _
  exact hany #[]

/-- `sink` is fed tokens as a list of them is parsed. -/
theorem after_eq_feed (p : Parser) (tokens : List Token) :
    p.after tokens = sink.feed p tokens :=
  p.after_eq_foldl tokens

theorem after_concat (p : Parser) (tokens : List Token) (token : Token) :
    p.after (tokens ++ [token]) = ((p.after tokens).step token).parser := by
  rw [after_eq_foldl, after_eq_foldl, List.foldl_append]
  rfl

/-- What every step keeps of a parser with the factories of `table`: the links of the tree agree,
and the cursor is in it. -/
structure Steady (table : List (TokenType × Factory)) (p : Parser) : Prop where
  wellFormed : p.tree.WellFormed
  current_lt : p.current < p.tree.size
  factories_eq : p.factories = table

namespace Steady

variable {table : List (TokenType × Factory)}

theorem start (root : Node) (table : List (TokenType × Factory)) :
    Steady table { ofRoot root with factories := table } :=
  ⟨Tree.wellFormed_singleton root, Nat.one_pos, rfl⟩

theorem grows (h : Steady table p) (htable : ∀ x ∈ table, x.2.Attaching) (token : Token) :
    p.tree.Grows (p.step token).parser.tree :=
  grows_step (h.factories_eq.symm ▸ htable) token

theorem step (h : Steady table p) (htable : ∀ x ∈ table, x.2.Attaching) (token : Token) :
    Steady table (p.step token).parser where
  wellFormed := (h.grows htable token).wellFormed h.wellFormed
  current_lt := by
    have hle := (h.grows htable token).keptIn.size_le
    rw [tree_step] at hle ⊢
    obtain ⟨d, -, -, hp⟩ | ⟨-, -, hp⟩ | ⟨next, hnext, -, -, hp⟩ := p.step_cases token
    · rw [hp]
      exact Nat.lt_of_lt_of_le h.current_lt hle
    · rw [hp]
      exact Nat.lt_of_lt_of_le h.current_lt hle
    · rw [hp]
      exact hnext
  factories_eq := (p.factories_step token).trans h.factories_eq

theorem after (h : Steady table p) (htable : ∀ x ∈ table, x.2.Attaching) (tokens : List Token) :
    Steady table (p.after tokens) := by
  rw [after_eq_foldl]
  induction tokens generalizing p with
  | nil => exact h
  | cons token tokens ih => exact ih (h.step htable token)

end Steady

/-- The diagnostics of a run are those there were, and for each token in order its `refusal?` by the
parser as it was then. -/
theorem diagnostics_after (p : Parser) (tokens : List Token) :
    (p.after tokens).diagnostics.toList = p.diagnostics.toList ++
      tokens.zipIdx.filterMap fun x => (p.after (tokens.take x.2)).refusal? x.1 := by
  induction tokens using List.reverseRecOn with
  | nil => exact (List.append_nil _).symm
  | append_singleton tokens token ih =>
    have hold : tokens.zipIdx.filterMap (fun x =>
          (p.after ((tokens ++ [token]).take x.2)).refusal? x.1) =
        tokens.zipIdx.filterMap fun x => (p.after (tokens.take x.2)).refusal? x.1 := by
      refine List.filterMap_congr fun x hx => ?_
      have hlt : x.2 < tokens.length := by
        have := (List.mem_zipIdx hx).2.1
        omega
      rw [List.take_append_of_le_length (Nat.le_of_lt hlt)]
    have hnew : [(token, tokens.length)].filterMap (fun x =>
          (p.after ((tokens ++ [token]).take x.2)).refusal? x.1) =
        ((p.after tokens).refusal? token).toList := by
      rw [List.filterMap_cons, List.take_left, List.filterMap_nil]
      cases (p.after tokens).refusal? token <;> rfl
    rw [after_concat, diagnostics_step, ih, List.zipIdx_append, List.filterMap_append, hold,
      Nat.zero_add, List.zipIdx_singleton, hnew, List.append_assoc]

/-- One step after any run from `root`, with factories that change the tree only by attaching nodes
and return what they like. The cursor `current` is in the tree, and the climb from it ends at the
root. The nodes that were there keep their ids, nodes and parents, and their children at the start
of those they have. The cursor has moved only to the id that the step reports. The diagnostics are,
in order, why tokens so far were skipped: for want of a factory, or for an id that was not in the
tree after the call. -/
theorem step_of_run (root : Node) {table : List (TokenType × Factory)}
    (htable : ∀ x ∈ table, x.2.Attaching) (tokens : List Token) (token : Token) :
    let start : Parser := { ofRoot root with factories := table }
    let before := (start.parse tokens).1
    let last := before.step token
    (start.parse (tokens ++ [token])).1 = last.parser ∧
      last.parser.tree.contains last.parser.current = true ∧
      last.parser.tree.Climbs (last.parser.tree.parent? last.parser.current)
        (last.parser.tree.ancestors last.parser.current) ∧
      (last.parser.current :: last.parser.tree.ancestors last.parser.current).getLast? =
        some Tree.root ∧
      before.tree.KeptIn last.parser.tree ∧
      last.parser.current = (match last.outcome with
        | .moved id => id
        | .stayed | .skipped _ => before.current) ∧
      last.parser.diagnostics.toList = (tokens ++ [token]).zipIdx.filterMap fun x =>
        (start.parse ((tokens ++ [token]).take x.2)).1.refusal? x.1 := by
  intro start before last
  have hbefore : Steady table before := (Steady.start root table).after htable tokens
  have hlast : Steady table last.parser := hbefore.step htable token
  have hrun : start.after (tokens ++ [token]) = last.parser := start.after_concat tokens token
  refine ⟨hrun, decide_eq_true hlast.current_lt, hlast.wellFormed.climbs _ hlast.current_lt,
    hlast.wellFormed.getLast?_lineage _ hlast.current_lt, (hbefore.grows htable token).keptIn,
    before.current_step token, ?_⟩
  have hdiagnostics := start.diagnostics_after (tokens ++ [token])
  rw [hrun] at hdiagnostics
  exact hdiagnostics

/-- Lists, and a factory that attaches two nodes to the root and returns an id far behind them. -/
def strayTable : List (TokenType × Factory) :=
  [(⟨"OPEN"⟩, .descend (Node.ofToken ⟨"LIST"⟩)), (⟨"CLOSE"⟩, .ascend),
    (⟨"STRAY"⟩, fun t _ token =>
      (some 99, (t.appendList 0 [.ofToken ⟨"LEFT"⟩ token, .ofToken ⟨"RIGHT"⟩ token]).2))]

theorem strayTable_attaching : ∀ x ∈ strayTable, x.2.Attaching := by
  intro x hx
  simp only [strayTable, List.mem_cons, List.not_mem_nil, or_false] at hx
  rcases hx with rfl | rfl | rfl
  · exact (Factory.Modelled.descend _).attaching
  · exact Factory.Modelled.ascend.attaching
  · exact fun _ _ _ => .appendList .refl _ _

/-- Inside a list, a token whose factory returns no id of the tree and one without a factory;
then the list ends. -/
theorem step_of_run_strayTable :
    let start : Parser := { ofRoot default with factories := strayTable }
    let tokens : List Token := [⟨⟨"OPEN"⟩, "(", 0, 0, 0⟩, ⟨⟨"STRAY"⟩, "s", 1, 0, 0⟩,
      ⟨⟨"OTHER"⟩, "o", 2, 0, 0⟩]
    let last := (start.parse tokens).1.step ⟨⟨"CLOSE"⟩, ")", 3, 0, 0⟩
    (∀ x ∈ strayTable, x.2.Attaching) ∧
      last.outcome = .moved 0 ∧ last.parser.current = 0 ∧
      (start.parse tokens).1.current = 1 ∧ last.parser.tree.children 0 = [1, 2, 3] ∧
      last.parser.diagnostics.toList =
        [⟨.unknownNode 99, ⟨⟨"STRAY"⟩, "s", 1, 0, 0⟩⟩,
          ⟨.unmappedTokenType, ⟨⟨"OTHER"⟩, "o", 2, 0, 0⟩⟩] := by
  intro start tokens last
  have h := step_of_run default strayTable_attaching tokens ⟨⟨"CLOSE"⟩, ")", 3, 0, 0⟩
  obtain ⟨-, -, -, -, -, hcurrent, hdiagnostics⟩ := h
  have houtcome : last.outcome = .moved 0 := by decide
  refine ⟨strayTable_attaching, houtcome, ?_, by decide, by decide, ?_⟩
  · rw [hcurrent]
    exact congrArg (fun outcome : Step => match outcome with
      | .moved id => id
      | .stayed | .skipped _ => (start.parse tokens).1.current) houtcome
  · rw [hdiagnostics]
    decide

end Parser

end LexTree
