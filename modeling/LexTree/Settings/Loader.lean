import LexTree.Settings
import LexTree.Settings.KeyPath
import LexTree.Toml.Document

/-!
# Loading settings

A loader stacks sources of settings on the defaults. A later source wins over an
earlier one, key by key, and an override wins over every source, wherever it was
given. Among overrides, too, the last one wins.

- `Loader.addFile`, `addOptionalFile` and `addEnvironment` add sources;
  `Loader.override` sets one key.
- `Loader.build` gives the settings, or tells what is wrong with the first source
  that is no good.
-/

namespace LexTree.Settings

/-! ## Environment variables -/

/-- What the names of variables that count start with, in any case. -/
def variablePrefix : List Char := "parsekit__".toList

/-- Writes a point for each pair of underscores. -/
def pointPairs : List Char → List Char
  | '_' :: '_' :: rest => '.' :: pointPairs rest
  | rune :: rest => rune :: pointPairs rest
  | [] => []

/-- The key that a variable sets, if it sets one. -/
def variableKey? (name : String) : Option String :=
  let runes := (foldKey name).toList
  if variablePrefix.isPrefixOf runes then
    some (String.ofList (pointPairs (runes.drop variablePrefix.length)))
  else none

/-- The settings among some variables, of which each is a text. -/
def ofEnvironment (values : List (String × String)) : List (String × Value) :=
  values.filterMap fun (name, value) => (variableKey? name).map (·, .text value)

/-! ## Sources -/

/-- A file that was looked for. -/
structure SourceFile where
  /-- The name under which it was looked for. -/
  name : String
  /-- The name under which messages about its values show it. -/
  origin : String
  /-- Its text, unless it is missing. -/
  content? : Option (Except FileError String)

/-- Where settings come from. -/
inductive Source where
  | file (f : SourceFile) (required : Bool)
  | environment (values : List (String × String))

/-- What a document sets. -/
def ofDocument (origin text : String) : Except SettingsError (List (String × Value)) :=
  match Toml.parse text with
  | some v => .ok (Value.ofToml (some origin) v).entries
  | none => .error (.badDocument origin)

/-- What a source sets. A file that may be missing may also be unreadable. -/
def Source.load : Source → Except SettingsError (List (String × Value))
  | .environment values => .ok (ofEnvironment values)
  | .file f required =>
    match f.content? with
    | some (.ok text) => ofDocument f.origin text
    | some (.error e) => if required then .error (.unreadableFile e) else .ok []
    | none => if required then .error (.missingFile f.name) else .ok []

/-! ## Loaders -/

/-- A stack of sources, and the overrides over it, each in the order in which they were
added. -/
structure Loader where
  sources : List Source
  overrides : List (KeyPath × Value)

namespace Loader

/-- The defaults alone. -/
def new : Loader := ⟨[], []⟩

def addSource (l : Loader) (s : Source) : Loader := ⟨l.sources ++ [s], l.overrides⟩

/-- Adds a file that has to be there. -/
def addFile (l : Loader) (f : SourceFile) : Loader := l.addSource (.file f true)

/-- Adds a file that may be missing. -/
def addOptionalFile (l : Loader) (f : SourceFile) : Loader := l.addSource (.file f false)

/-- Adds environment variables. -/
def addEnvironment (l : Loader) (values : List (String × String)) : Loader :=
  l.addSource (.environment values)

/-- Sets the value of a key over all sources. -/
def override (l : Loader) (key : String) (value : Value) : Except SettingsError Loader :=
  match KeyPath.parse? key with
  | some p => .ok ⟨l.sources, l.overrides ++ [(p, value)]⟩
  | none => .error (.badKey key)

/-- Adds what a source sets to a table. -/
def layer (root : Value) (entries : List (String × Value)) : Value :=
  entries.foldl (fun root (key, value) => root.setKey key value) root

/-- The table of all that is set. -/
def merged (l : Loader) : Except SettingsError Value := do
  let root ← l.sources.foldlM (fun root s => return layer root (← s.load)) defaults
  return l.overrides.foldl (fun root (p, value) => root.setAt p value) root

/-- The settings. -/
def build (l : Loader) : Except SettingsError Settings := do
  ofValue (← l.merged)

end Loader

end LexTree.Settings
