/-!
# Files

What a program asks of a file system, and how that may fail.

- `FileAccess` has the operations, in whatever monad they run.
- `textOfFile` is the text that a file holds.
-/

namespace LexTree

/-- Why a file cannot be used. -/
inductive FileError where
  /-- The system refuses, for a reason with a number. -/
  | refused (reason : String) (number : Nat)
  /-- No file can have the name. -/
  | nulInName
  | notUnicode
deriving DecidableEq, Repr

namespace FileError

def notFound : FileError := .refused "No such file or directory" 2
def notDirectory : FileError := .refused "Not a directory" 20
def isDirectory : FileError := .refused "Is a directory" 21
def nameTooLong : FileError := .refused "File name too long" 36

def message : FileError → String
  | refused reason number => reason ++ " (os error " ++ toString number ++ ")"
  | nulInName => "file name contained an unexpected NUL byte"
  | notUnicode => "stream did not contain valid UTF-8"

end FileError

/-- Bytes that one part of a name may have. -/
def longestPart : Nat := 255

/-- Bytes that a name may have. -/
def longestName : Nat := 4095

/-- A name that can be looked up. -/
def checkName (name : String) : Except FileError Unit :=
  if name.contains '\x00' then .error .nulInName
  else if name.isEmpty then .error .notFound
  else if longestName < name.utf8ByteSize then .error .nameTooLong
  else .ok ()

/-- Access to files by name. -/
structure FileAccess (m : Type → Type) where
  /-- Whether a file, and no directory or device, has the name. -/
  isFile : String → m Bool
  /-- The content of a file. -/
  read : String → m (Except FileError ByteArray)
  /-- The content of the program's input. -/
  input : m ByteArray
  /-- Opens a file to add to it, and makes it if it is missing. -/
  openLog : String → m (Except FileError Unit)
  /-- Adds to a file that was opened. -/
  append : String → ByteArray → m Unit

/-- The text of a file with some content. -/
def textOfFile (content : Except FileError ByteArray) : Except FileError String :=
  match content with
  | .error e => .error e
  | .ok bytes =>
    match String.fromUTF8? bytes with
    | some text => .ok text
    | none => .error .notUnicode

end LexTree
