import LexTree.Settings.Value
import LexTree.Text.Digits

/-!
# Key paths

A path such as `logging.level` or `hosts[0].name` leads to a place in a table of
settings. Its names are of ASCII letters and digits, `-`, `_` and spaces.

- `KeyPath.parse?` reads a path.
- `Value.setAt` sets the value at a path and makes what is missing on the way.
-/

namespace LexTree.Settings

/-- A step from a value to one inside it. -/
inductive Step where
  | name (key : String)
  /-- The item at a place; a negative one counts from the end. -/
  | item (place : Int)
deriving DecidableEq, Repr

/-- The steps to a place: the ones before the last, and the last. -/
structure KeyPath where
  init : List Step
  last : Step
deriving DecidableEq, Repr

namespace KeyPath

/-- The path of one name. -/
def ofName (key : String) : KeyPath := ⟨[], .name key⟩

/-- Appends a step. -/
def push (p : KeyPath) (step : Step) : KeyPath := ⟨p.init ++ [p.last], step⟩

/-! ## Reading paths -/

def isNameRune (rune : Char) : Bool :=
  Text.isAsciiLetter rune || Text.isAsciiDigit rune || rune == '_' || rune == '-' || rune == ' '

/-- Reads a name of one rune at least. -/
def name? (text : List Char) : Option (String × List Char) :=
  let runes := text.takeWhile isNameRune
  if runes.isEmpty then none else some (String.ofList runes, text.dropWhile isNameRune)

def isBlank (rune : Char) : Bool := rune == ' ' || rune == '\t'

/-- Reads a place in a list with blanks around it, after its opening bracket. -/
def place? (text : List Char) : Option (Int × List Char) := do
  let text := text.dropWhile isBlank
  let negative := text.head? = some '-'
  let text := if negative then text.tail else text
  let n ← Text.natOfDigits? 10 (text.takeWhile Text.isAsciiDigit)
  let bound := if negative then 0x8000000000000000 else 0x7FFFFFFFFFFFFFFF
  match (text.dropWhile Text.isAsciiDigit).dropWhile isBlank with
  | ']' :: rest => if n ≤ bound then some (if negative then -n else n, rest) else none
  | _ => none

/-- Reads the steps after others, at most so many. -/
def steps? : Nat → KeyPath → List Char → Option KeyPath
  | _, p, [] => some p
  | 0, _, _ :: _ => none
  | fuel + 1, p, '.' :: rest => do
    let (key, rest) ← name? rest
    steps? fuel (p.push (.name key)) rest
  | fuel + 1, p, '[' :: rest => do
    let (place, rest) ← place? rest
    steps? fuel (p.push (.item place)) rest
  | _, _, _ => none

/-- Reads a path. Every step takes one rune at least. -/
def parse? (text : String) : Option KeyPath := do
  let (key, rest) ← name? text.toList
  steps? rest.length (ofName key) rest

end KeyPath

/-! ## Places in values -/

namespace Value

/-- The origin and the items of a list, or none. -/
def items : Value → Option String × List Value
  | list origin items => (origin, items)
  | _ => (none, [])

/-- A list long enough to have a place, and that place counted from its front. A negative
place before the front moves the list back. -/
def reach (items : List Value) (place : Int) : List Value × Nat :=
  match place with
  | .ofNat n => (items ++ List.replicate (n + 1 - items.length) nothing, n)
  | .negSucc n =>
    (List.replicate (n + 1 - items.length) nothing ++ items, items.length - (n + 1))

/-- Changes what a step leads to. A name makes a table of what is none, and a place a list. -/
def changeAt (v : Value) (change : Value → Value) : Step → Value
  | .name key => v.set (foldKey key) (change ((v.find? (foldKey key)).getD nothing))
  | .item place =>
    let (origin, old) := v.items
    let (items, n) := reach old place
    list origin (items.modify n change)

/-- Changes what some steps lead to. -/
def changeAll (change : Value → Value) : List Step → Value → Value
  | [], v => change v
  | step :: steps, v => v.changeAt (changeAll change steps) step

/-- Sets the value at the end of a path. A table is merged into the one under a name. -/
def setAt (v : Value) (p : KeyPath) (new : Value) : Value :=
  changeAll (fun parent =>
    match p.last with
    | .name key => parent.assign key new
    | place => parent.changeAt (fun _ => new) place) p.init v

/-- Sets the value that a layer has under a key, which is a path if it can be read as one. -/
def setKey (v : Value) (key : String) (new : Value) : Value :=
  v.setAt ((KeyPath.parse? key).getD (.ofName key)) new

end Value

end LexTree.Settings
