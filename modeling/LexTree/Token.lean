/-!
# Tokens and spans

A token is a lexeme with the type that names its kind and the place where it
starts. All offsets and lengths count Unicode scalar values.

- `Token.placedAt` moves a token and changes nothing else.
- `Span.of` is the stretch of input as long as a token's value.
- `TokenStream` lays tokens end to end with running offsets.
-/

namespace LexTree

/-- Opaque tag naming the kind of a token. -/
structure TokenType where
  name : String
deriving DecidableEq, Repr, Inhabited

/-- Types are ordered by name, code point by code point. -/
def TokenType.compare (a b : TokenType) : Ordering := compareOfLessAndEq a.name b.name

/-- A lexeme recognised by a consumer. `line` and `column` are carried along
and never computed. -/
structure Token where
  type : TokenType
  value : String
  offset : Nat
  line : Nat
  column : Nat
deriving DecidableEq, Repr, Inhabited

namespace Token

/-- A token at the very start of the input, as consumers draft it. -/
def draft (type : TokenType) (value : String) : Token := ⟨type, value, 0, 0, 0⟩

/-- The token positioned at `offset`. -/
def placedAt (t : Token) (offset : Nat) : Token := { t with offset }

/-- Length of the value in runes. -/
def length (t : Token) : Nat := t.value.length

def isEmpty (t : Token) : Bool := t.value.isEmpty

/-- Offset one past the last rune of the value. -/
def stop (t : Token) : Nat := t.offset + t.length

end Token

/-- A stretch of input, in runes. -/
structure Span where
  offset : Nat
  length : Nat
deriving DecidableEq, Repr, Inhabited

namespace Span

/-- The empty span at the start of the input. -/
def zero : Span := ⟨0, 0⟩

/-- The span covered by a token's value. -/
def of (t : Token) : Span := ⟨t.offset, t.length⟩

/-- Offset one past the last rune of the span. -/
def stop (s : Span) : Nat := s.offset + s.length

end Span

/-! ## Streams with running offsets -/

/-- Tokens laid end to end, with the offset that the next one gets. -/
structure TokenStream where
  tokens : Array Token
  offset : Nat

namespace TokenStream

def empty : TokenStream := ⟨#[], 0⟩

/-- Adds a token that takes up `length` runes of input, which differs from the
length of its value when the input held escapes. -/
def pushSpanning (s : TokenStream) (type : TokenType) (value : String) (length : Nat) :
    TokenStream :=
  ⟨s.tokens.push ((Token.draft type value).placedAt s.offset), s.offset + length⟩

/-- Adds a token; the next one starts right after its value. -/
def push (s : TokenStream) (type : TokenType) (value : String) : TokenStream :=
  s.pushSpanning type value value.length

end TokenStream

end LexTree
