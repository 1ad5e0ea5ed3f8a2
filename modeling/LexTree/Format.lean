import LexTree.Format.Json
import LexTree.Format.Yaml
import LexTree.Printer
import LexTree.Tree.Snapshot

/-!
# Output formats

Token streams are shown as lines, as colored source text, or as data; trees as
an indented listing or as data.

- `TokenFormat.ofName?` and `TreeFormat.ofName?` find a format by its name.
- `TokenFormat.render` and `TreeFormat.render` show tokens and trees in a format.
-/

namespace LexTree

/-- Why something cannot be shown. -/
inductive FormatError where
  | notFound (name : String)
  /-- A tree of this depth has no snapshot. -/
  | tooDeep (depth : Nat)
deriving DecidableEq, Repr

def FormatError.message : FormatError → String
  | notFound name => "Format '" ++ name ++ "' not found"
  | tooDeep depth =>
    s!"tree is nested {depth} levels deep, snapshots allow at most {maxSnapshotNesting}"

/-! ## Formats for tokens -/

inductive TokenFormat where
  | plain
  | color
  | json
  | yaml
deriving DecidableEq, Repr, Inhabited

namespace TokenFormat

def all : List TokenFormat := [plain, color, json, yaml]

def name : TokenFormat → String
  | plain => "plain"
  | color => "color"
  | json => "json"
  | yaml => "yaml"

def description : TokenFormat → String
  | plain => "one line per token with type, quoted value and range"
  | color => "source text colored by token type"
  | json => "JSON array of tokens"
  | yaml => "YAML list of tokens"

/-- The format that is used where none is named. -/
def default : TokenFormat := plain

def ofName? (name : String) : Except FormatError TokenFormat :=
  match all.find? (·.name = name) with
  | some format => .ok format
  | none => .error (.notFound name)

end TokenFormat

/-- Shows tokens in a format, with a palette for the colored one. -/
def TokenFormat.render (format : TokenFormat) (tokens : List Token) (palette : Palette) : String :=
  let lines (printer : TokenPrinter) := tokens.foldl (fun out t => out ++ printer t) ""
  let document := Document.list (tokens.map fun t => (TokenRecord.of t).document)
  match format with
  | .plain => lines .plain
  | .color => lines (.colored palette)
  | .json => Format.Json.pretty document
  | .yaml => Format.Yaml.render document

/-! ## Formats for trees -/

inductive TreeFormat where
  | dump
  | json
  | yaml
deriving DecidableEq, Repr, Inhabited

namespace TreeFormat

def all : List TreeFormat := [dump, json, yaml]

def name : TreeFormat → String
  | dump => "dump"
  | json => "json"
  | yaml => "yaml"

def description : TreeFormat → String
  | dump => "indented listing, one node per line"
  | json => "nested JSON document"
  | yaml => "nested YAML document"

/-- The format that is used where none is named. -/
def default : TreeFormat := dump

def ofName? (name : String) : Except FormatError TreeFormat :=
  match all.find? (·.name = name) with
  | some format => .ok format
  | none => .error (.notFound name)

end TreeFormat

/-- The document of the subtree under a node. -/
def Tree.document (t : Tree) (id : NodeId) : Except FormatError Document :=
  match t.snapshot id with
  | .ok s => .ok s.document
  | .error depth => .error (.tooDeep depth)

/-- Shows a tree in a format. -/
def TreeFormat.render (format : TreeFormat) (t : Tree) : Except FormatError String :=
  match format with
  | .dump => .ok t.dump
  | .json => (t.document Tree.root).map Format.Json.pretty
  | .yaml => (t.document Tree.root).map Format.Yaml.render

end LexTree
