import LexTree.Toml.Value

/-!
# Tables under construction

A document adds to its tables piece by piece. Every table is defined once: by a
header, as an element of an array of tables, by a header of a table inside it, or
by the dotted keys that lead into it. Its kind says what may still be added.

- `Section.insert` adds a value under a dotted key.
- `Section.define` and `Section.append` add what a header opens.
- `Section.toValue` is the finished table.
-/

namespace LexTree.Toml

/-- What defined a table. -/
inductive Definition where
  /-- A header of its own, or its place as root or as element of an array. -/
  | header
  /-- A header of a table inside it. Its own header may still come. -/
  | inner
  /-- Dotted keys. More of them may come. -/
  | dotted
deriving DecidableEq, Repr, Inhabited

/-- What stands under a key. -/
inductive Item where
  | value (v : Value)
  | table (definition : Definition) (entries : List (String × Item))
  /-- An array of tables: the ones before the last, and the last. -/
  | tables (others : List (List (String × Item))) (last : List (String × Item))
deriving Inhabited

/-- A table under construction. -/
structure Section where
  definition : Definition
  entries : List (String × Item)

namespace Section

def empty (definition : Definition) : Section := ⟨definition, []⟩

def find? (s : Section) (key : String) : Option Item := s.entries.lookup key

/-- Replaces what stands under a key, or adds it at the end. -/
def set (s : Section) (key : String) (item : Item) : Section :=
  if s.entries.any (·.1 = key) then
    ⟨s.definition, s.entries.map fun (k, old) => if k = key then (k, item) else (k, old)⟩
  else ⟨s.definition, s.entries ++ [(key, item)]⟩

/-- Takes a key out of a table. -/
def erase (s : Section) (key : String) : Section :=
  ⟨s.definition, s.entries.filter (·.1 ≠ key)⟩

/-- Changes the table that a path leads to. Tables that are missing are made on the way,
and of an array of tables the last is taken. Dotted keys do not lead into a table that has
a header. -/
def descend (via : Definition) (change : Section → Option Section) :
    List String → Section → Option Section
  | [], s => change s
  | key :: path, s =>
    match s.find? key with
    | none => do
      let inner ← descend via change path (empty via)
      return s.set key (.table inner.definition inner.entries)
    | some (.table definition entries) =>
      if via = .dotted ∧ definition = .header then none
      else do
        let inner ← descend via change path ⟨definition, entries⟩
        return s.set key (.table inner.definition inner.entries)
    | some (.tables others last) => do
      let inner ← descend via change path ⟨.header, last⟩
      return s.set key (.tables others inner.entries)
    | some (.value _) => none

/-- Adds a value under a key, after the keys that lead to its table. Values do not mix with
the tables of other definitions. -/
def insert (s : Section) (path : List String) (key : String) (v : Value) : Option Section :=
  descend .dotted (fun t =>
    if decide (t.definition = .dotted) = path.isEmpty then none
    else if (t.find? key).isSome then none
    else some (t.set key (.value v))) path s

/-- A value with the dotted key that it is given under: the way to its table, and the last
part. -/
structure Entry where
  path : List String
  key : String
  value : Value

/-- Adds values one after the other. -/
def insertAll (s : Section) (entries : List Entry) : Option Section :=
  entries.foldlM (fun s e => s.insert e.path e.key e.value) s

/-- Adds the table whose header names the path and the key, with its values. It comes after all
that its parent has. -/
def define (s : Section) (path : List String) (key : String) (entries : List Entry) :
    Option Section :=
  let fill (parent : Section) (old : List (String × Item)) : Option Section := do
    let table ← insertAll ⟨.header, old⟩ entries
    return parent.set key (.table .header table.entries)
  descend .inner (fun parent =>
    match parent.find? key with
    | none => fill parent []
    | some (.table .inner old) => fill (parent.erase key) old
    | some _ => none) path s

/-- Adds an element to the array of tables whose header names the path and the key. -/
def append (s : Section) (path : List String) (key : String) (entries : List Entry) :
    Option Section :=
  descend .inner (fun parent => do
    let table ← insertAll (empty .header) entries
    match parent.find? key with
    | none => return parent.set key (.tables [] table.entries)
    | some (.tables others last) => return parent.set key (.tables (others ++ [last]) table.entries)
    | some _ => none) path s

end Section

/-! ## Finished tables -/

mutual
def Item.toValue : Item → Value
  | .value v => v
  | .table _ entries => .table (entriesToValues entries)
  | .tables others last => .list (tablesToValues others ++ [.table (entriesToValues last)])

def entriesToValues : List (String × Item) → List (String × Value)
  | [] => []
  | (key, item) :: rest => (key, item.toValue) :: entriesToValues rest

def tablesToValues : List (List (String × Item)) → List Value
  | [] => []
  | entries :: rest => .table (entriesToValues entries) :: tablesToValues rest
end

/-- The table as a value. -/
def Section.toValue (s : Section) : Value := .table (entriesToValues s.entries)

end LexTree.Toml
