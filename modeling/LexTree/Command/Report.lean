import LexTree.Command.Arguments
import LexTree.Log.Line
import LexTree.Sexp
import LexTree.Tree.Stream

/-!
# What commands report

Each command turns a source text into a report: what it prints, what it tells the
user beside that, and whether it succeeded. A command succeeds if the scan takes
all of its input and the result can be shown.

- `Report.ofTokens`, `Report.ofTree` and `Report.ofFormats` are the reports.
-/

namespace LexTree

structure Report where
  /-- What is printed. -/
  output : String
  /-- What the user is told beside that. -/
  messages : String
  succeeded : Bool
  log : Log

/-- An error as the user is told it. -/
def errorMessage (text : String) : String := "Error: " ++ text ++ "\n"

namespace Report

/-- A report of an error, after which nothing is printed. -/
def failed (text : String) : Report := ⟨"", errorMessage text, false, #[]⟩

/-- The tokens of a source. A colored text is followed by a line break. -/
def ofTokens (source : String) (format : TokenFormat) : Report :=
  let s := Sexp.tokenize source
  let text := format.render s.output.toList Sexp.palette
  ⟨if format = .color then text ++ "\n" else text, "", s.status = .complete, s.log⟩

/-- What the user is told of lists that are still open. -/
def unclosedWarning (count : Nat) : String :=
  if count = 0 then "" else "warning: " ++ toString count ++ " unclosed list(s) at end of input\n"

/-- What is printed of a tree, or why nothing is. A listing is streamed by `Tree.writeDump` and
held nowhere else, and other formats are rendered first. -/
def printed (t : Tree) (format : TreeFormat) : Except String String :=
  match format with
  | .dump =>
    match t.writeDump .unlimited with
    | (.ok (), c) => .ok ((String.fromUTF8? c.held).getD "")
    | (.error e, _) => .error ("cannot write output: " ++ e.message)
  | .json | .yaml => (format.render t).mapError FormatError.message

/-- The tree of a source. -/
def ofTree (source : String) (format : TreeFormat) : Report :=
  let o := Sexp.parse source
  match printed o.tree format with
  | .ok text => ⟨text, unclosedWarning o.unclosed, o.status = .complete, o.log⟩
  | .error message => ⟨"", errorMessage message, false, o.log⟩

/-- A format in the list of formats, with its name in a column. -/
def formatLine (name description : String) : String :=
  "  " ++ name ++ "".pushn ' ' (6 - name.length) ++ " " ++ description ++ "\n"

/-- The list of formats. -/
def formatList : String :=
  TreeFormat.all.foldl (fun out f => out ++ formatLine f.name f.description)
    (TokenFormat.all.foldl (fun out f => out ++ formatLine f.name f.description)
        "Token formats (parsekit tokens --format):\n\n" ++
      "\nTree formats (parsekit tree --format):\n\n")

def ofFormats : Report := ⟨formatList, "", true, #[]⟩

end Report

end LexTree
