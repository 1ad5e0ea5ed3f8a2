import LexTree.Parser

/-!
# Steps of a parser

What a token does to a parser, by what its factory returns.

- `step_of_none`, `step_of_move` and `step_of_unmapped`: the parser after a
  factory that returns nothing, one that returns a node, and no factory.
-/

namespace LexTree.Parser

variable {p : Parser} {token : Token} {factory : Factory} {tree : Tree} {next : NodeId}

/-- A factory that returns `none` leaves the cursor. -/
theorem step_of_none (hf : p.factory? token.type = some factory)
    (hr : factory p.tree p.current token = (none, tree)) :
    (p.step token).parser = { p with tree } := by
  rw [step, hf]
  simp only [hr]

/-- A factory that returns a node of the tree moves the cursor there. -/
theorem step_of_move (hf : p.factory? token.type = some factory)
    (hr : factory p.tree p.current token = (some next, tree)) (hnext : next < tree.size) :
    (p.step token).parser = { p with tree, current := next } := by
  have hcontains : tree.contains next = true := decide_eq_true hnext
  rw [step, hf]
  simp only [hr, hcontains, if_true]

/-- A token without a factory is reported, and changes nothing else. -/
theorem step_of_unmapped (hf : p.factory? token.type = none) :
    (p.step token).parser =
      { p with diagnostics := p.diagnostics.push ⟨.unmappedTokenType, token⟩ } := by
  rw [step, hf]
  rfl

end LexTree.Parser
