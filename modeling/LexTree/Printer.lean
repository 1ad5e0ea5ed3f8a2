import LexTree.Channel
import LexTree.Lexer
import LexTree.Text.Quoted

/-!
# Printing tokens

A printer turns a token into text; a token that it turns into no text is left
out. A token writer receives tokens and writes what a printer makes of them, up
to the first write that fails.

- `TokenPrinter.plain` is one line for each token.
- `TokenPrinter.colored` is the value, colored by type.
- `Outlet.printToken` writes a token to any outlet, and `Outlet.finish` reports the
  failure that was kept, or flushes.
- `TokenWriter` does so on a channel.
-/

namespace LexTree

/-- Turns a token into text. -/
abbrev TokenPrinter := Token → String

/-- Color of a text on a terminal. -/
inductive Color where
  | reset
  /-- A color of the terminal's palette of 256. -/
  | indexed (index : Nat)
  | rgb (red green blue : Nat)
deriving DecidableEq, Repr

/-- The names of the first sixteen colors of the palette, in order. -/
def Color.names : List String :=
  ["black", "dark_red", "dark_green", "dark_yellow", "dark_blue", "dark_magenta", "dark_cyan",
    "grey", "dark_grey", "red", "green", "yellow", "blue", "magenta", "cyan", "white"]

namespace Color

/-- The color with a name. -/
def ofName? (name : String) : Option Color :=
  if name = "reset" then some reset
  else (names.findIdx? (· = name)).map indexed

/-- What follows the escape character to turn a color on. -/
def code : Color → String
  | reset => "[39m"
  | indexed index => s!"[38;5;{index}m"
  | rgb red green blue => s!"[38;2;{red};{green};{blue}m"

/-- A text in a color, and the default color after it. -/
def paint (color : Color) (text : String) : String :=
  "\x1B" ++ color.code ++ text ++ "\x1B" ++ reset.code

end Color

/-- Colors by token type; of several for one type the first counts. -/
structure Palette where
  colors : List (TokenType × Color)
deriving DecidableEq, Repr, Inhabited

namespace Palette

def empty : Palette := ⟨[]⟩

/-- Gives a type a color, in place of any earlier one. -/
def define (p : Palette) (type : TokenType) (color : Color) : Palette := ⟨(type, color) :: p.colors⟩

def color? (p : Palette) (type : TokenType) : Option Color := p.colors.lookup type

end Palette

namespace TokenPrinter

/-- One line for each token: type, quoted value and range. -/
def plain : TokenPrinter := fun t =>
  t.type.name ++ ": '" ++ Text.quote t.value ++ "'  [" ++ toString t.offset ++ ":" ++
    toString t.stop ++ "]\n"

/-- The value in the color of the type; as it is if the type has none. -/
def colored (p : Palette) : TokenPrinter := fun t =>
  match p.color? t.type with
  | some color => color.paint t.value
  | none => t.value

/-- The value in angle brackets, and nothing for some types. -/
def angled (hidden : List TokenType) : TokenPrinter := fun t =>
  if hidden.contains t.type then "" else "<" ++ t.value ++ ">"

end TokenPrinter

/-! ## Writing -/

namespace Outlet

variable {σ : Type} (o : Outlet σ)

/-- Writes a token, unless a write has failed before, and keeps the failure. -/
def printToken (printer : TokenPrinter) :
    σ × Option WriteError → Token → σ × Option WriteError
  | (s, some e), _ => (s, some e)
  | (s, none), token =>
    let text := printer token
    if text.isEmpty then (s, none)
    else
      match o.writeAll s text.toUTF8 with
      | (.error e, s) => (s, some e)
      | (.ok (), s) => (s, none)

/-- The first failure, or the answer to a flush. -/
def finish : σ × Option WriteError → Except WriteError Unit × σ
  | (s, some e) => (.error e, s)
  | (s, none) => o.flush s

end Outlet

/-- Writes printed tokens to a channel, and keeps the first failure. -/
structure TokenWriter where
  channel : Channel
  printer : TokenPrinter
  error : Option WriteError

namespace TokenWriter

def new (channel : Channel) (printer : TokenPrinter) : TokenWriter := ⟨channel, printer, none⟩

/-- Writes a token, unless a write has failed before. -/
def write (v : TokenWriter) (token : Token) : TokenWriter :=
  let ⟨channel, printer, error⟩ := v
  let (channel, error) := Channel.outlet.printToken printer (channel, error) token
  ⟨channel, printer, error⟩

/-- The first failure, or that of a flush, or the channel. -/
def finish (v : TokenWriter) : Except WriteError Channel :=
  match Channel.outlet.finish (v.channel, v.error) with
  | (.error e, _) => .error e
  | (.ok (), channel) => .ok channel

/-- A token writer as the receiver of a lexer's tokens. -/
def sink : Sink TokenWriter := ⟨fun v token => (v.write token, #[])⟩

end TokenWriter

end LexTree
