import LexTree.Reader
import LexTree.Token

/-!
# Token consumers

A consumer is one strategy for recognising a lexeme where a reader stands. It
returns a token draft or nothing, and the reader as it leaves it; after nothing
that may be anywhere, since the scanner goes back to a mark of its own.

- `Matcher` is the type of the built-in strategies, and `Matcher.attempt` what
  each does.
- `Reader.readLiteral`, `Reader.readUntil` and `Reader.readQuoted` are their
  loops over the reader.
-/

namespace LexTree

/-- A strategy for recognising one lexeme. -/
abbrev Consumer := Reader → Option Token × Reader

/-- What `inner` recognises, if its value is accepted. -/
def Consumer.validated (accepts : String → Bool) (inner : Consumer) : Consumer := fun r =>
  let (token, rest) := inner r
  (token.filter (accepts ·.value), rest)

namespace Reader

/-- Adds to `value` the runes of a literal, up to the first that the input does
not go on with; whether all of them were there, and the reader. -/
def readLiteral : List Char → String → Reader → Option String × Reader
  | [], value, r => (some value, r)
  | expected :: literal, value, r =>
    if r.atEnd || r.peek != expected then (none, r)
    else readLiteral literal (value.push r.read.1) r.read.2

/-- Adds runes to `value` until `accepts` holds of it, which is asked after
every rune. Nothing, at the end of the input, if it never does. -/
def readUntil (accepts : String → Bool) (value : String) (r : Reader) : Option String × Reader :=
  if _ : r.atEnd then (none, r)
  else
    let value := value.push r.read.1
    if accepts value then (some value, r.read.2) else readUntil accepts value r.read.2
termination_by r.remaining
decreasing_by exact read_remaining_lt ‹_›

/-- Adds runes to `value` up to a `delimiter` that does not directly follow a
backslash, leaving out every backslash. Nothing if the input ends first. -/
def readQuoted (delimiter : Char) (escaped : Bool) (value : String) (r : Reader) :
    Option String × Reader :=
  if _ : r.atEnd then (none, r)
  else
    let rune := r.read.1
    if rune = '\\' then readQuoted delimiter true value r.read.2
    else if !escaped && rune = delimiter then (some (value.push delimiter), r.read.2)
    else readQuoted delimiter false (value.push rune) r.read.2
termination_by r.remaining
decreasing_by all_goals exact read_remaining_lt ‹_›

end Reader

/-- The built-in strategies, each with the type of the tokens it drafts. -/
inductive Matcher where
  /-- One rune out of a list. It is read in any case. -/
  | oneOf (type : TokenType) (allowed : List Char)
  /-- The longest run of runes out of a list. -/
  | runOf (type : TokenType) (runes : List Char)
  /-- The longest run of runes of any of the classes. -/
  | classRun (type : TokenType) (classes : List (Char → Bool))
  /-- A literal text. -/
  | literal (type : TokenType) (text : List Char)
  /-- A literal between two equal quotes, where a backslash escapes the next
  rune and is dropped. -/
  | quoted (type : TokenType)
  /-- The shortest non-empty text that is accepted. -/
  | shortest (type : TokenType) (accepts : String → Bool)
  /-- What `inner` recognises, if it is accepted. -/
  | validated (accepts : String → Bool) (inner : Matcher)

namespace Matcher

/-- The token for a run of runes; an empty run is none. -/
def ofRun (type : TokenType) (run : String × Reader) : Option Token × Reader :=
  (if run.1.isEmpty then none else some (Token.draft type run.1), run.2)

/-- What a built-in strategy does where a reader stands. -/
def attempt : Matcher → Consumer
  | oneOf type allowed, r =>
    let (rune, rest) := r.read
    (if allowed.contains rune then some (Token.draft type rune.toString) else none, rest)
  | runOf type runes, r => ofRun type (r.readWhile runes.contains "")
  | classRun type classes, r => ofRun type (r.readWhile (fun rune => classes.any (· rune)) "")
  | literal type text, r =>
    let (value, rest) := r.readLiteral text ""
    (value.map (Token.draft type), rest)
  | quoted type, r =>
    let (delimiter, rest) := r.read
    if delimiter = '"' || delimiter = '\'' then
      let (value, rest) := rest.readQuoted delimiter false delimiter.toString
      (value.map (Token.draft type), rest)
    else (none, rest)
  | shortest type accepts, r =>
    let (value, rest) := r.readUntil accepts ""
    (value.map (Token.draft type), rest)
  | validated accepts inner, r => Consumer.validated accepts inner.attempt r

end Matcher

end LexTree
