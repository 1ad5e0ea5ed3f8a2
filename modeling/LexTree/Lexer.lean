import LexTree.Consumer
import LexTree.Event

/-!
# Scanning

A lexer turns a text into tokens with an ordered list of consumers. At each
position it asks them one after the other, each from a mark, and takes the
first that returns a token past the position; a token that takes no input
counts as a failure. At the end of the input it emits a token of the end type,
and where no consumer gets anywhere one of the error type.

- `firstMatch` is one position: which consumer succeeds, and the reader then.
- `Lexer.scan` goes from position to position for a number of rounds.
- `Lexer.lex` scans with enough rounds for consumers that leave other people's
  marks alone, whatever the sink does.
-/

namespace LexTree

/-- How a scan ended. -/
inductive ScanStatus where
  /-- The whole input was tokenized. -/
  | complete
  /-- No consumer matched at `offset`. -/
  | failed (offset : Nat)
  /-- Consumers that take off marks which they did not set keep sending the
  scan back. -/
  | endless
deriving DecidableEq, Repr, Inhabited

/-- Receives every emitted token, in stream order, and reports events. -/
structure Sink (σ : Type) where
  visit : σ → Token → σ × Log

namespace Sink

/-- Collects the tokens. -/
def collect : Sink (Array Token) := ⟨fun tokens token => (tokens.push token, #[])⟩

end Sink

/-- A scan that has ended: the reader, what the sink made of the tokens, and
the log. -/
structure Session (σ : Type) where
  status : ScanStatus
  reader : Reader
  output : σ
  log : Log

/-- What the error token says. -/
def errorText : String := "No valid token found"

/-- Asks the consumers in order, each from a mark at the reader's offset. The
first that returns a token past the mark has matched: its index and its token,
placed at the mark. -/
def firstMatch : List Consumer → Nat → Reader → Log → Option (Nat × Token) × Reader × Log
  | [], _, r, log => (none, r, log)
  | consumer :: consumers, index, r, log =>
    let (start, marked) := r.mark
    match consumer marked with
    | (some token, after) =>
      if start < after.offset then (some (index, token.placedAt start), after.commit, log)
      else firstMatch consumers (index + 1) after.rewind (log.push (.matchedNothing index start))
    | (none, after) => firstMatch consumers (index + 1) after.rewind log

/-- An ordered list of consumers, and the types of the tokens that end a stream. -/
structure Lexer where
  endType : TokenType
  errorType : TokenType
  consumers : List Consumer

namespace Lexer

variable {σ : Type}

/-- Gives the sink a last token and stops. -/
def finish (sink : Sink σ) (type : TokenType) (value : String) (status : ScanStatus) (event : Event)
    (r : Reader) (output : σ) (log : Log) : Session σ :=
  let (output, events) := sink.visit output ((Token.draft type value).placedAt r.offset)
  ⟨status, r, output, log.push event ++ events⟩

/-- Scans on from a position, for at most `rounds` tokens. -/
def scan (l : Lexer) (sink : Sink σ) : Nat → Reader → σ → Log → Session σ
  | 0, r, output, log => ⟨.endless, r, output, log⟩
  | rounds + 1, r, output, log =>
    if r.atEnd then finish sink l.endType "" .complete (.reachedEnd r.offset) r output log
    else
      match firstMatch l.consumers 0 r log with
      | (some (index, token), r, log) =>
        let log := log.push (.emitted index token.type token.value token.offset)
        let (output, events) := sink.visit output token
        scan l sink rounds r output (log ++ events)
      | (none, r, log) =>
        finish sink l.errorType errorText (.failed r.offset) (.noneMatched r.offset) r output log

/-- More rounds than any scan needs whose consumers leave the marks of others
alone, since each of its tokens takes a rune; the surplus is for those that do
not and come to an end all the same. -/
def rounds (r : Reader) : Nat := r.remaining + 1000000

/-- Scans the reader's text from its offset, feeding every token to the sink. -/
def lex (l : Lexer) (sink : Sink σ) (r : Reader) (output : σ) : Session σ :=
  l.scan sink (rounds r) r output #[]

/-- The tokens of a text, the last one included. -/
def tokenize (l : Lexer) (source : String) : Session (Array Token) :=
  l.lex .collect (.ofString source) #[]

end Lexer

end LexTree
