import LexTree.Command.Run
import LexTree.Toml.Moment.Clock
import Std.Time.DateTime.Timestamp

/-!
# The program

Reads the arguments and the environment, gives the run access to the file system,
and prints what it leaves behind.
-/

namespace LexTree

/-- The reason and the number of a system's refusal. -/
def refusalOf : IO.Error → FileError
  | .noFileOrDirectory _ code reason => .refused reason code.toNat
  | .inappropriateType _ code reason => .refused reason code.toNat
  | .permissionDenied _ code reason => .refused reason code.toNat
  | .invalidArgument _ code reason => .refused reason code.toNat
  | .resourceExhausted _ code reason => .refused reason code.toNat
  | .alreadyExists _ code reason => .refused reason code.toNat
  | .otherError code reason => .refused reason code.toNat
  | e => .refused (toString e) 0

/-- Does something that the system may refuse. -/
def refusable {α : Type} (action : IO α) : IO (Except FileError α) := do
  try return .ok (← action) catch e => return .error (refusalOf e)

/-- Does something with a name that the system may refuse. -/
def refusableBy {α : Type} (name : String) (action : IO α) : IO (Except FileError α) :=
  match checkName name with
  | .ok () => refusable action
  | .error e => return .error e

/-- The content of a file. -/
def contentOf (name : String) : IO (Except FileError ByteArray) :=
  refusableBy name (IO.FS.withFile name .read (·.readBinToEnd))

/-- Whether a name is that of something that can be read, which a directory is not. -/
def isReadable (name : String) : IO Bool := do
  match ← contentOf name with
  | .ok _ => return true
  | .error _ => return false

/-- Access to the file system. -/
def fileSystem : FileAccess IO where
  isFile := isReadable
  read := contentOf
  input := do (← IO.getStdin).readBinToEnd
  openLog name := refusableBy name (IO.FS.withFile name .append fun _ => pure ())
  append name bytes := IO.FS.withFile name .append fun handle => handle.write bytes

/-- The text before the first of some rune, and the text after it. -/
def cutAt (rune : Char) (text : String) : Option (String × String) :=
  match text.toList.dropWhile (· ≠ rune) with
  | [] => none
  | _ :: rest => some (String.ofList (text.toList.takeWhile (· ≠ rune)), String.ofList rest)

/-- The variables in a block in which each ends with a zero. -/
def entriesOfBlock (block : String) : List (String × String) :=
  (block.splitOn "\x00").filterMap (cutAt '=')

/-- The variables of the environment. -/
def readEnvironment : IO (List (String × String)) := do
  match ← contentOf "/proc/self/environ" with
  | .ok bytes => return entriesOfBlock ((String.fromUTF8? bytes).getD "")
  | .error _ => return []

/-- The current time. -/
def currentTime : IO String := do
  let now ← Std.Time.Timestamp.now
  let nanoseconds := now.toNanosecondsSinceUnixEpoch.val.toNat
  let second := 1000000000
  return (Toml.Moment.ofSeconds (nanoseconds / second) (nanoseconds % second)).text

end LexTree

def main (arguments : List String) : IO UInt32 := do
  let outcome ← LexTree.Program.run LexTree.fileSystem arguments (← LexTree.readEnvironment)
    (← LexTree.currentTime)
  IO.print outcome.output
  IO.eprint outcome.messages
  return outcome.exitCode.toUInt32
