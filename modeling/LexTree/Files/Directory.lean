import LexTree.Files

/-!
# Directories in memory

A working directory with what is around it, held in memory. Names lead from the
working directory or from the root, through `.` and `..`.

- `Directory.read` and `Directory.openLog` use a file by its name;
  `Directory.access` offers them to a program.
-/

namespace LexTree

/-- A place: names from the working directory, or from the root after `/`. Places that start
with `..` lie around the working directory. -/
abbrev Place := List String

/-- A file in memory. -/
structure StoredFile where
  place : Place
  content : ByteArray
  /-- Whether it is a file and no device. -/
  regular : Bool

structure Directory where
  files : List StoredFile
  /-- Directories beside those that hold files. -/
  folders : List Place

namespace Directory

/-! ## Places -/

def fileAt? (d : Directory) (p : Place) : Option StoredFile := d.files.find? (·.place = p)

/-- Whether a place is that of a directory: it is on the way to a file, or known for one. -/
def isFolder (d : Directory) (p : Place) : Bool :=
  p.all (· = "..") || p = ["/"] || d.folders.contains p ||
    d.files.any fun f => p.isPrefixOf f.place && p ≠ f.place

/-- The directory that holds a place. -/
def parent (p : Place) : Place :=
  if p = ["/"] then p
  else if p.all (· = "..") then ".." :: p
  else p.dropLast

/-- Goes from a place, which has to be a directory, to one inside it. -/
def enter (d : Directory) (p : Place) (name : String) : Except FileError Place :=
  if d.isFolder p then
    match name with
    | "." => .ok p
    | ".." => .ok (parent p)
    | name => if longestPart < name.utf8ByteSize then .error .nameTooLong else .ok (p ++ [name])
  else if (d.fileAt? p).isSome then .error .notDirectory
  else .error .notFound

/-- The place with a name, and whether the name can only be that of a directory. Such a name
is none for a file to be made, whatever its last part. -/
def locate (d : Directory) (name : String) (making : Bool) : Except FileError (Place × Bool) := do
  checkName name
  let parts := (name.splitOn "/").filter (· ≠ "")
  let start := if name.startsWith "/" then ["/"] else []
  let folder := name.endsWith "/"
  let holder ← parts.dropLast.foldlM d.enter start
  match parts.getLast? with
  | none => return (holder, folder)
  | some last =>
    if making && folder && d.isFolder holder then throw .isDirectory
    return (← d.enter holder last, folder)

/-! ## Files -/

/-- The content of a file. -/
def read (d : Directory) (name : String) : Except FileError ByteArray := do
  let (place, folder) ← d.locate name false
  if d.isFolder place then throw .isDirectory
  match d.fileAt? place with
  | some file => if folder then throw .notDirectory else return file.content
  | none => throw .notFound

def isFile (d : Directory) (name : String) : Bool :=
  match d.locate name false with
  | .ok (place, false) => !d.isFolder place && (d.fileAt? place).any (·.regular)
  | _ => false

/-- Opens a file to add to it, and makes it if it is missing. -/
def openLog (d : Directory) (name : String) : Except FileError Directory := do
  let (place, folder) ← d.locate name true
  if folder || d.isFolder place then throw .isDirectory
  if (d.fileAt? place).isSome then return d
  return ⟨d.files ++ [⟨place, .empty, true⟩], d.folders⟩

/-- Adds to a file that is there. -/
def append (d : Directory) (name : String) (bytes : ByteArray) : Directory :=
  match d.locate name false with
  | .ok (place, _) =>
    ⟨d.files.map fun f => if f.place = place then ⟨place, f.content ++ bytes, f.regular⟩ else f,
      d.folders⟩
  | .error _ => d

/-- Access to the files of a directory, for a program that is given some input. -/
def access (input : ByteArray) : FileAccess (StateM Directory) where
  isFile name := return (← get).isFile name
  read name := return (← get).read name
  input := return input
  openLog name := do
    match (← get).openLog name with
    | .ok d => set d; return .ok ()
    | .error e => return .error e
  append name bytes := modify (·.append name bytes)

end Directory

end LexTree
