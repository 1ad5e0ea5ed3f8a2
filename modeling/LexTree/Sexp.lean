import LexTree.Parser
import LexTree.Pattern.Anchored
import LexTree.Printer
import LexTree.Text.Blank

/-!
# S-expressions

A sample grammar. Lists stand in parentheses; their items are numbers such as
`0`, `0.5` and `42`, symbols of letters, digits and `-_$#%&`, and strings in
single or double quotes, where a backslash escapes the next rune.

- `Sexp.tokenize` gives the tokens of a text.
- `Sexp.parse` builds a tree with a `ROOT`, a `LIST` for each list and a leaf
  for each atom; blanks never reach it.
-/

namespace LexTree.Sexp

/-! ## Token and node types -/

def startType : TokenType := ⟨"START"⟩
def stopType : TokenType := ⟨"END"⟩
def numberType : TokenType := ⟨"NUMBER"⟩
def symbolType : TokenType := ⟨"SYMBOL"⟩
def blankType : TokenType := ⟨"WS"⟩
def stringType : TokenType := ⟨"STRING"⟩
def endType : TokenType := ⟨"EOF"⟩
def errorType : TokenType := ⟨"ERR"⟩

def rootNodeType : NodeType := ⟨"ROOT"⟩
def listNodeType : NodeType := ⟨"LIST"⟩
def numberNodeType : NodeType := ⟨"NUMBER"⟩
def symbolNodeType : NodeType := ⟨"SYMBOL"⟩
def stringNodeType : NodeType := ⟨"STRING"⟩

/-! ## Lexemes -/

/-- The runes that numbers are made of. -/
def numberAlphabet : String := "0123456789."

/-- The runes that symbols are made of. -/
def symbolAlphabet : String :=
  "abcdefghijklmnopqrstuvwxyzABCDEFGHIJKLMNOPQRSTUVWXYZ0123456789-_$#%&"

/-- The shape of a number: no leading zeros, and digits around the point. -/
def numberSyntax : String := "0|0\\.\\d+|[1-9]\\d*(\\.\\d+)?"

/-- The pattern of a number, read. -/
def numberShape : Option AnchoredPattern := (AnchoredPattern.compile numberSyntax).toOption

/-- Whether a whole text has the shape of a number. -/
def isNumber (text : String) : Bool := numberShape.any (·.accepts text)

/-- The lexemes, in the order in which they are tried. -/
def matchers : List Matcher :=
  [.oneOf startType ['('], .oneOf stopType [')'],
    .validated isNumber (.runOf numberType numberAlphabet.toList),
    .runOf symbolType symbolAlphabet.toList, .classRun blankType [Text.isBlank], .quoted stringType]

def lexer : Lexer := ⟨endType, errorType, matchers.map (·.attempt)⟩

/-- The tokens of a text, and how its scan ended. -/
def tokenize (source : String) : Session (Array Token) := lexer.tokenize source

/-- The colors of a colored text. -/
def palette : Palette :=
  [(startType, "dark_yellow"), (stopType, "dark_yellow"), (numberType, "cyan"),
    (symbolType, "green"), (stringType, "magenta"), (errorType, "red")].foldl
    (fun p (type, name) => p.define type ((Color.ofName? name).getD .reset)) .empty

/-! ## Trees -/

/-- The node of an atom, which carries the token's value. -/
def atom (type : NodeType) : Factory := .leaf (Node.ofToken type)

/-- What becomes of each token. -/
def factories : List (TokenType × Factory) :=
  [(startType, .descend fun token => .bare listNodeType (.of token)), (stopType, .ascend),
    (numberType, atom numberNodeType), (symbolType, atom symbolNodeType),
    (stringType, atom stringNodeType),
    (blankType, .ignore), (endType, .ignore)]

def parser : Parser := { Parser.ofRootType rootNodeType with factories }

/-- What a text was read as. -/
structure Outcome where
  tree : Tree
  status : ScanStatus
  diagnostics : Array Diagnostic
  /-- Lists still open at the end. -/
  unclosed : Nat
  log : Log

/-- Reads a text. -/
def parse (source : String) : Outcome :=
  let s := lexer.lex Parser.sink (.ofString source) parser
  ⟨s.output.tree, s.status, s.output.diagnostics, s.output.tree.depth s.output.current, s.log⟩

end LexTree.Sexp
