import LexTree.Command.Arguments

/-!
# Help

A page of help says what a command does and how it is used, and lists its commands,
inputs and options in two columns. A description that is too long for its line goes
on below itself.

- `Topic.page` is the page on a topic.
- `Help.fill` breaks words into lines.
-/

namespace LexTree

namespace Help

/-! ## Layout -/

/-- The longest line of a page. -/
def pageWidth : Nat := 100

/-- Breaks words into lines, each as long as it can be. A word that is longer than a line
has one of its own. -/
def fill (width : Nat) (line : String) : List String → List String
  | [] => [line]
  | word :: words =>
    if line.length + 1 + word.length ≤ width then fill width (line ++ " " ++ word) words
    else line :: fill width word words

/-- The lines of a text. -/
def linesOf (width : Nat) (text : String) : List String :=
  match text.splitOn " " with
  | [] => []
  | word :: words => fill width word words

/-- A thing and what it is for. -/
structure Row where
  /-- What stands at the start of the line. -/
  mark : String
  name : String
  purpose : String
deriving DecidableEq, Repr

/-- The marks and names that a row starts with. -/
def Row.head (r : Row) : String := "  " ++ r.mark ++ r.name

/-- A row, with its purpose in a column of its own. -/
def Row.render (column : Nat) (r : Row) : String :=
  let gap := "".pushn ' ' (column - r.head.length)
  let margin := "\n" ++ "".pushn ' ' column
  r.head ++ gap ++ margin.intercalate (linesOf (pageWidth - column) r.purpose) ++ "\n"

/-- Rows under a heading. There is no heading over nothing. -/
def list (heading : String) (rows : List Row) : String :=
  if rows.isEmpty then ""
  else
    let widest := rows.foldl (fun widest r => max widest r.head.length) 0
    rows.foldl (fun out r => out ++ r.render (widest + 2)) ("\n" ++ heading ++ ":\n")

/-! ## Rows -/

/-- A command or an input. -/
def entry (name purpose : String) : Row := ⟨"", name, purpose⟩

/-- An option, with a letter if it has one. -/
def option (letter : Option Char) (name purpose : String) : Row :=
  match letter with
  | some letter => ⟨"-" ++ letter.toString ++ ", ", "--" ++ name, purpose⟩
  | none => ⟨"    ", "--" ++ name, purpose⟩

def configOption : Row :=
  option (some 'c') "config <config>" "Configuration file layered over the built-in defaults"

def levelOption : Row :=
  option none "log-level <log-level>" "Log verbosity (off, error, warn, info, debug, trace)"

def helpOption : Row := option (some 'h') "help" "Print help"

def versionOption : Row := option (some 'V') "version" "Print version"

/-- The format of a command, with the names that it can have. -/
def formatOption (setting : String) (names : List String) : Row :=
  option (some 'f') "format <format>"
    ("Output format (defaults to " ++ setting ++ " from the config) [possible values: " ++
      ", ".intercalate names ++ "]")

def pathInput : Row := entry "<path>" "Path to the input file, or - for stdin"

end Help

namespace Topic

open Help

/-- What a topic is for, in one line. -/
def purpose : Topic → String
  | program => "Tokenize and parse S-expressions with the parsekit toolkit"
  | tokens => "Print the token stream"
  | tree => "Print the syntax tree"
  | formats => "List available output formats"
  | help => "Print this message or the help of the given subcommand(s)"

/-- How a topic is written on the command line. -/
def usage : Topic → String
  | program => "parsekit [OPTIONS] <COMMAND>"
  | tokens => "parsekit tokens [OPTIONS] <path>"
  | tree => "parsekit tree [OPTIONS] <path>"
  | formats => "parsekit formats [OPTIONS]"
  | help => "parsekit help [COMMAND]..."

def commands : Topic → List Row
  | program =>
    [entry "tokens" tokens.purpose, entry "tree" tree.purpose, entry "formats" formats.purpose,
      entry "help" help.purpose]
  | _ => []

def inputs : Topic → List Row
  | tokens | tree => [pathInput]
  | help => [entry "[COMMAND]..." "Print help for the subcommand(s)"]
  | program | formats => []

def options : Topic → List Row
  | program => [configOption, levelOption, helpOption, versionOption]
  | tokens =>
    [configOption, formatOption "output.tokens" (TokenFormat.all.map (·.name)), levelOption,
      helpOption]
  | tree =>
    [configOption, formatOption "output.tree" (TreeFormat.all.map (·.name)), levelOption,
      helpOption]
  | formats => [configOption, levelOption, helpOption]
  | help => []

/-- The page on a topic. -/
def page (t : Topic) : String :=
  t.purpose ++ "\n\nUsage: " ++ t.usage ++ "\n" ++ list "Commands" t.commands ++
    list "Arguments" t.inputs ++ list "Options" t.options

end Topic

end LexTree
