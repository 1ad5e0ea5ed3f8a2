import LexTree.Text.Digits
import LexTree.Toml.Value

/-!
# Reading dates and times

- `moment` reads a date, a time of day or both; `startsMoment` tells from the
  first runes of a value whether it is one.
- `looseMoment?` reads a whole text as a moment.
-/

namespace LexTree.Toml

/-- Reads a number of exactly so many digits. -/
def fixedNumber (width : Nat) : Reading Nat := fun text =>
  if text.length < width then none
  else (Text.natOfDigits? 10 (text.take width)).map (·, text.drop width)

/-- Reads a number of two digits within bounds. -/
def boundedNumber (low high : Nat) : Reading Nat := fun text => do
  let (n, rest) ← fixedNumber 2 text
  if low ≤ n ∧ n ≤ high then return (n, rest) else none

/-- What follows a rune, if it comes next. -/
def after? (rune : Char) : List Char → Option (List Char)
  | first :: rest => if first = rune then some rest else none
  | [] => none

/-- Reads a date of the Gregorian calendar. -/
def date : Reading Date := fun text => do
  let (year, rest) ← fixedNumber 4 text
  let rest ← after? '-' rest
  let (month, rest) ← boundedNumber 1 12 rest
  let rest ← after? '-' rest
  let (day, rest) ← boundedNumber 1 (Date.daysIn year month) rest
  return (⟨year, month, day⟩, rest)

/-- Reads a part of a second in nanoseconds, which may be missing. Digits from the tenth on
do not count. -/
def nanoseconds : Reading Nat
  | '.' :: rest =>
    let digits := rest.takeWhile Text.isAsciiDigit
    let counted := digits.take 9
    (Text.natOfDigits? 10 counted).map fun n =>
      (n * Nat.pow 10 (9 - counted.length), rest.drop digits.length)
  | text => some (0, text)

/-- Reads a time of day up to some hour. A minute may have a leap second. -/
def timeUpTo (lastHour : Nat) : Reading TimeOfDay := fun text => do
  let (hour, rest) ← boundedNumber 0 lastHour text
  let rest ← after? ':' rest
  let (minute, rest) ← boundedNumber 0 59 rest
  let rest ← after? ':' rest
  let (second, rest) ← boundedNumber 0 60 rest
  let (nanosecond, rest) ← nanoseconds rest
  return (⟨hour, minute, second, nanosecond⟩, rest)

/-- Reads a time of day. -/
def timeOfDay : Reading TimeOfDay := timeUpTo 23

/-- Reads hours and minutes as minutes. -/
def offsetMinutes : Reading Nat := fun text => do
  let (hours, rest) ← boundedNumber 0 23 text
  let rest ← after? ':' rest
  let (minutes, rest) ← boundedNumber 0 59 rest
  return (hours * 60 + minutes, rest)

/-- Reads an offset from universal time, which may be missing. -/
def offset : Reading (Option Offset)
  | 'Z' :: rest => some (some .utc, rest)
  | 'z' :: rest => some (some .utc, rest)
  | '+' :: rest => (offsetMinutes rest).map fun (m, rest) => (some (.minutes m), rest)
  | '-' :: rest => (offsetMinutes rest).map fun (m, rest) => (some (.minutes (-m)), rest)
  | text => some (none, text)

/-- Whether a text starts with so many digits and a rune after them. -/
def startsNumbered (width : Nat) (rune : Char) (text : List Char) : Bool :=
  (fixedNumber width text).any fun (_, rest) => rest.head? = some rune

/-- Whether a value is a date or a time. -/
def startsMoment (text : List Char) : Bool :=
  startsNumbered 4 '-' text || startsNumbered 2 ':' text

/-- What follows the rune between date and time, if a time comes next. A blank may also
end the value. -/
def timeAfterDate? : List Char → Option (List Char)
  | 'T' :: rest => some rest
  | 't' :: rest => some rest
  | ' ' :: rest => if startsNumbered 2 ':' rest then some rest else none
  | _ => none

/-- Reads a moment. -/
def moment : Reading Moment := fun text => do
  if startsNumbered 2 ':' text then
    let (time, rest) ← timeOfDay text
    return (.time time, rest)
  else
    let (date, rest) ← date text
    match timeAfterDate? rest with
    | none => return (.date date, rest)
    | some rest =>
      let (time, rest) ← timeOfDay rest
      match ← offset rest with
      | (some o, rest) => return (.instant date time o, rest)
      | (none, rest) => return (.dateTime date time, rest)

/-! ## Moments in quotes -/

/-- Reads an offset of a day at most, up to the end of the text. -/
def looseOffset? (text : List Char) : Option Offset := do
  let (hours, rest) ← fixedNumber 2 text
  let (minutes, rest) ← fixedNumber 2 (← after? ':' rest)
  let total := hours * 60 + minutes
  if rest.isEmpty && total ≤ 24 * 60 then return .minutes total else none

/-- The moment at a date, a time and an offset, if that is what comes up to the end of the
text. -/
def looseDateTime? (date : Date) (text : List Char) : Option Moment := do
  let (time, rest) ← timeUpTo 24 text
  match rest with
  | [] => return .dateTime date time
  | ['Z'] | ['z'] => return .instant date time .utc
  | '+' :: rest => return .instant date time (← looseOffset? rest)
  | '-' :: rest =>
    match ← looseOffset? rest with
    | .utc => return .instant date time .utc
    | .minutes m => return .instant date time (.minutes (-m))
  | _ => none

/-- Reads a text as a moment. A day may end at hour 24 here, and any number of two digits
counts as minutes of an offset. -/
def looseMoment? (text : List Char) : Option Moment := do
  if (text.drop 2).head? = some ':' then
    match ← timeUpTo 24 text with
    | (time, []) => return .time time
    | _ => none
  else
    let (date, rest) ← date text
    match rest with
    | [] => return .date date
    | 'T' :: rest | 't' :: rest | ' ' :: rest => looseDateTime? date rest
    | _ => none

end LexTree.Toml
