import LexTree.Files
import LexTree.Format
import LexTree.Log.Line
import LexTree.Settings.Value

/-!
# Settings

What can be set: how the program logs, and the formats in which it shows tokens
and trees.

- `Settings.ofValue` reads settings off a table; `SettingsError` tells what may be
  wrong with it.
- `Settings.defaults` is the table of what holds where nothing is set.
-/

namespace LexTree

/-- How the program logs. -/
structure LoggingSettings where
  /-- The name of a verbosity. -/
  level : String
  /-- The file that is logged to, or `-` for the terminal. -/
  file : String
  format : LogFormat
deriving DecidableEq, Repr

/-- Whether the log goes to the terminal. -/
def LoggingSettings.toTerminal (s : LoggingSettings) : Bool := s.file = "-"

def LoggingSettings.verbosity (s : LoggingSettings) : Verbosity := .ofText s.level

/-- How tokens and trees are shown. -/
structure OutputSettings where
  tokens : TokenFormat
  tree : TreeFormat
deriving DecidableEq, Repr

structure Settings where
  logging : LoggingSettings
  output : OutputSettings
deriving DecidableEq, Repr

/-- Why there are no settings. -/
inductive SettingsError where
  /-- A key is no path. -/
  | badKey (key : String)
  /-- A file that has to be there is not. -/
  | missingFile (name : String)
  | unreadableFile (e : FileError)
  /-- A file is no TOML document. -/
  | badDocument (name : String)
  /-- A value that is no text stands where a text is wanted. -/
  | noText (found key : String) (origin : Option String)
  /-- A value that is no table stands where a table is wanted. -/
  | noSection (found sectionName : String)
  /-- A list is too short for the fields of a section. -/
  | shortList (length : Nat) (sectionName : String) (fields : Nat)
  | missingField (field : String)
  /-- A value stands for no choice at all. -/
  | noChoice (choices : String)
  | unknownChoice (choices name : String)
deriving DecidableEq, Repr

def SettingsError.message : SettingsError → String
  | badKey key => "invalid key: " ++ key
  | missingFile name => "configuration file \"" ++ name ++ "\" not found"
  | unreadableFile e => e.message
  | badDocument name => "invalid TOML in " ++ name
  | noText found key origin =>
    "invalid type: " ++ found ++ ", expected a string for key \x60" ++ key ++ "\x60" ++
      (match origin with | some name => " in " ++ name | none => "")
  | noSection found sectionName => "invalid type: " ++ found ++ ", expected struct " ++ sectionName
  | shortList length sectionName fields =>
    "invalid length " ++ toString length ++ ", expected struct " ++ sectionName ++ " with " ++
      toString fields ++ " elements"
  | missingField field => "missing field \x60" ++ field ++ "\x60"
  | noChoice choices =>
    "value of enum " ++ choices ++
      " should be represented by either string or table with exactly one key"
  | unknownChoice choices name =>
    "enum " ++ choices ++ " does not have variant constructor " ++ name

namespace Settings

/-! ## Reading values -/

/-- A scalar as messages show it. -/
def Value.described : Value → String
  | .nothing => "unit value"
  | .boolean b => "boolean \x60" ++ toString b ++ "\x60"
  | .integer i => "integer \x60" ++ toString i ++ "\x60"
  | .float x => "floating point \x60" ++ x.pointedText ++ "\x60"
  | .text s => "string " ++ Text.quote s
  | .list .. => "sequence"
  | .table .. => "map"

/-- Reads a text. Truth values and numbers are texts, too. -/
def Value.toText (key : String) : Value → Except SettingsError String
  | .text s => .ok s
  | .boolean b => .ok (toString b)
  | .integer i => .ok (toString i)
  | .float x => .ok x.text
  | .list origin _ => .error (.noText "sequence" key origin)
  | .table origin _ => .error (.noText "map" key origin)
  | .nothing => .error (.noText "unit value" key none)

/-- Finds a choice by its name in any case. -/
def chooseByName {α : Type} (choices : String) (all : List (String × α)) (name : String) :
    Except SettingsError α :=
  match all.lookup (foldKey name) with
  | some a => .ok a
  | none => .error (.unknownChoice choices name)

/-- Reads a choice: its name, or a table whose only key is its name. -/
def Value.toChoice {α : Type} (choices : String) (all : List (String × α)) :
    Value → Except SettingsError α
  | .text name => chooseByName choices all name
  | .table _ [(name, _)] => chooseByName choices all name
  | _ => .error (.noChoice choices)

/-- A section of settings whose fields are being read. -/
structure Section where
  /-- The section's key. -/
  key : String
  /-- The section's name in messages. -/
  name : String
  fieldCount : Nat
  /-- Fields by name in a table, by place in a list. -/
  content : List (String × Value) ⊕ List Value

namespace Section

/-- The section under a key of a table. -/
def find (root : Value) (key name : String) (fieldCount : Nat) : Except SettingsError Section :=
  match root.find? key with
  | some (.table _ entries) => .ok ⟨key, name, fieldCount, .inl entries⟩
  | some (.list _ items) => .ok ⟨key, name, fieldCount, .inr items⟩
  | some v => .error (.noSection v.described name)
  | none => .error (.missingField key)

/-- Reads a field with a name and a place, if it is there. Only a table may lack it for now. -/
def read? {α : Type} (s : Section) (field : String) (place : Nat)
    (decode : String → Value → Except SettingsError α) : Except SettingsError (Option α) :=
  match s.content with
  | .inl entries =>
    match entries.lookup field with
    | some v => (decode (s.key ++ "." ++ field) v).map some
    | none => .ok none
  | .inr items =>
    match items[place]? with
    | some v => (decode (s.key ++ "[" ++ toString place ++ "]") v).map some
    | none => .error (.shortList items.length s.name s.fieldCount)

end Section

/-- The value of a field that has to be there. -/
def required {α : Type} (field : String) : Option α → Except SettingsError α
  | some a => .ok a
  | none => .error (.missingField field)

def logFormats : List (String × LogFormat) := LogFormat.all.map fun f => (f.name, f)
def tokenFormats : List (String × TokenFormat) := TokenFormat.all.map fun f => (f.name, f)
def treeFormats : List (String × TreeFormat) := TreeFormat.all.map fun f => (f.name, f)

/-- Reads how the program logs. -/
def readLogging (root : Value) : Except SettingsError LoggingSettings := do
  let s ← Section.find root "logging" "LoggingConfig" 3
  let level ← s.read? "level" 0 Value.toText
  let file ← s.read? "file" 1 Value.toText
  let format ← s.read? "format" 2 fun _ => Value.toChoice "LogFormat" logFormats
  return ⟨← required "level" level, ← required "file" file, ← required "format" format⟩

/-- Reads how tokens and trees are shown. -/
def readOutput (root : Value) : Except SettingsError OutputSettings := do
  let s ← Section.find root "output" "OutputConfig" 2
  let tokens ← s.read? "tokens" 0 fun _ => Value.toChoice "TokenFormat" tokenFormats
  let tree ← s.read? "tree" 1 fun _ => Value.toChoice "TreeFormat" treeFormats
  return ⟨← required "tokens" tokens, ← required "tree" tree⟩

/-- Reads settings off a table. Keys that mean nothing do not count. -/
def ofValue (root : Value) : Except SettingsError Settings := do
  return ⟨← readLogging root, ← readOutput root⟩

/-! ## Defaults -/

/-- The table of the default settings. -/
def defaults : Value :=
  .table none [
    ("logging", .table none [
      ("level", .text "warn"), ("file", .text "-"), ("format", .text LogFormat.compact.name)]),
    ("output", .table none [
      ("tokens", .text TokenFormat.default.name), ("tree", .text TreeFormat.default.name)])]

end Settings

end LexTree
