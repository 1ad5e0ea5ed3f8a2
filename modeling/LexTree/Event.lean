import LexTree.Token

/-!
# The trace log

Scanning and tree building report what they do as events. An event is a value;
its level, target, message and fields are read off it, so the order and the
content of a log can be reasoned about without any formatting.

- `Event.fields` lists the fields in the order in which log lines show them.
-/

namespace LexTree

/-- How important an event is, from the most detailed level up. -/
inductive Level where
  | trace
  | debug
  | info
  | warn
  | error
deriving DecidableEq, Repr, Inhabited

namespace Level

/-- Place in the order of importance. -/
def rank : Level → Nat
  | trace => 0
  | debug => 1
  | info => 2
  | warn => 3
  | error => 4

/-- Name as log lines show it. -/
def name : Level → String
  | trace => "TRACE"
  | debug => "DEBUG"
  | info => "INFO"
  | warn => "WARN"
  | error => "ERROR"

end Level

/-- Something that the scanner or the tree builder did. -/
inductive Event where
  /-- The consumer at `index` recognised `value` at `offset`. -/
  | emitted (index : Nat) (type : TokenType) (value : String) (offset : Nat)
  /-- The consumer at `index` returned a token without moving past `offset`. -/
  | matchedNothing (index offset : Nat)
  /-- The scan ended at the end of the input. -/
  | reachedEnd (offset : Nat)
  /-- The scan ended where no consumer got anywhere. -/
  | noneMatched (offset : Nat)
  /-- A token of the type moved the cursor between two nodes. -/
  | cursorMoved (type : TokenType) (source target : Nat)
  /-- A token of the type at `offset` was skipped, for the reason in `message`. -/
  | skipped (message : String) (type : TokenType) (offset : Nat)
  /-- The factory registered for the type gave way to another. -/
  | replacedFactory (type : TokenType)
deriving DecidableEq, Repr

/-- Events in the order of their emission. -/
abbrev Log := Array Event

/-- The value of an event's field. -/
inductive FieldValue where
  | number (n : Nat)
  | text (s : String)
  /-- Text shown quoted and escaped. -/
  | quoted (s : String)
deriving DecidableEq, Repr

namespace Event

def level : Event → Level
  | emitted .. | matchedNothing .. | cursorMoved .. => .trace
  | reachedEnd .. | noneMatched .. | replacedFactory .. => .debug
  | skipped .. => .warn

/-- The part of the library that an event comes from. -/
def target : Event → String
  | emitted .. | matchedNothing .. | reachedEnd .. | noneMatched .. => "parsekit::lexer"
  | cursorMoved .. | skipped .. | replacedFactory .. => "parsekit::parser"

def message : Event → String
  | emitted .. => "emitting token"
  | matchedNothing .. => "consumer matched nothing"
  | reachedEnd .. => "reached end of input"
  | noneMatched .. => "no consumer matched"
  | cursorMoved .. => "cursor moved"
  | skipped message .. => message
  | replacedFactory .. => "replaced node factory"

/-- Named values, in the order in which they are shown. -/
def fields : Event → List (String × FieldValue)
  | emitted index type value offset =>
    [("consumer", .number index), ("typ", .text type.name), ("value", .quoted value),
      ("offset", .number offset)]
  | matchedNothing index offset => [("consumer", .number index), ("offset", .number offset)]
  | reachedEnd offset | noneMatched offset => [("offset", .number offset)]
  | cursorMoved type source target =>
    [("typ", .text type.name), ("from", .number source), ("to", .number target)]
  | skipped _ type offset => [("typ", .text type.name), ("offset", .number offset)]
  | replacedFactory type => [("typ", .text type.name)]

end Event

end LexTree
