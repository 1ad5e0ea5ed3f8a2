import LexTree.Event
import LexTree.Lexer
import LexTree.Parser.Diagnostic
import LexTree.Parser.Factory

/-!
# Building trees from tokens

A parser keeps a tree, a cursor in it, and a factory for each token type. It
takes tokens one by one; a token without a factory, or whose factory names a
node outside the tree, is skipped and reported.

- `Parser.step` takes one token, and `Parser.parse` a list of them.
- `Parser.sink` lets a lexer feed a parser directly.
-/

namespace LexTree

/-- What became of one token. -/
inductive Step where
  /-- The factory returned a node, which is now at the cursor. -/
  | moved (id : NodeId)
  /-- The factory returned nothing, and the cursor did not move. -/
  | stayed
  /-- The token was skipped. -/
  | skipped (diagnostic : Diagnostic)
deriving DecidableEq, Repr

/-- A tree being built. Of the factories for one type the first counts. -/
structure Parser where
  tree : Tree
  current : NodeId
  factories : List (TokenType × Factory)
  diagnostics : Array Diagnostic

/-- A parser after a step, with what the step did and reported. -/
structure Stepped where
  outcome : Step
  parser : Parser
  log : Log

namespace Parser

/-- A parser with a tree of a root alone, and no factories. -/
def ofRoot (root : Node) : Parser := ⟨.singleton root, Tree.root, [], #[]⟩

/-- A parser whose root has a type and no payload. -/
def ofRootType (type : NodeType) : Parser := ofRoot (.bare type .zero)

def factory? (p : Parser) (type : TokenType) : Option Factory := p.factories.lookup type

/-- Maps a token type to a factory, in place of any earlier one. -/
def register (p : Parser) (type : TokenType) (factory : Factory) : Parser × Log :=
  ({ p with factories := (type, factory) :: p.factories },
    if (p.factory? type).isSome then #[.replacedFactory type] else #[])

/-- Reports a token that cannot be placed. -/
def skip (p : Parser) (d : Diagnostic) : Stepped :=
  ⟨.skipped d, { p with diagnostics := p.diagnostics.push d },
    #[.skipped d.message d.token.type d.token.offset]⟩

/-- Takes one token. -/
def step (p : Parser) (token : Token) : Stepped :=
  match p.factory? token.type with
  | none => p.skip ⟨.unmappedTokenType, token⟩
  | some factory =>
    let ⟨tree, current, factories, diagnostics⟩ := p
    match factory tree current token with
    | (none, tree) => ⟨.stayed, ⟨tree, current, factories, diagnostics⟩, #[]⟩
    | (some next, tree) =>
      if tree.contains next then
        ⟨.moved next, ⟨tree, next, factories, diagnostics⟩,
          #[.cursorMoved token.type current next]⟩
      else (Parser.mk tree current factories diagnostics).skip ⟨.unknownNode next, token⟩

/-- Takes a list of tokens. -/
def parse (p : Parser) (tokens : List Token) : Parser × Log :=
  tokens.foldl (fun (p, log) token =>
    let s := p.step token
    (s.parser, log ++ s.log)) (p, #[])

/-- A parser as the receiver of a lexer's tokens. -/
def sink : Sink Parser := ⟨fun p token =>
  let s := p.step token
  (s.parser, s.log)⟩

end Parser

end LexTree
