/-!
# Dates and times

A TOML moment is a date, a time of day, both, or both with an offset from
universal time.

- `Moment.text` writes a moment with `T` between date and time, without zeros at
  the end of a fraction.
-/

namespace LexTree.Toml

structure Date where
  year : Nat
  month : Nat
  day : Nat
deriving DecidableEq, Repr

structure TimeOfDay where
  hour : Nat
  minute : Nat
  second : Nat
  nanosecond : Nat
deriving DecidableEq, Repr

/-- How local time differs from universal time. -/
inductive Offset where
  | utc
  | minutes (m : Int)
deriving DecidableEq, Repr

inductive Moment where
  | date (d : Date)
  | time (t : TimeOfDay)
  | dateTime (d : Date) (t : TimeOfDay)
  | instant (d : Date) (t : TimeOfDay) (o : Offset)
deriving DecidableEq, Repr

/-- A number with zeros before it. -/
def padded (width n : Nat) : String :=
  let digits := toString n
  "".pushn '0' (width - digits.length) ++ digits

namespace Date

/-- The number of days of a month in the Gregorian calendar. -/
def daysIn (year month : Nat) : Nat :=
  let leap := year % 4 = 0 ∧ (year % 100 ≠ 0 ∨ year % 400 = 0)
  match month with
  | 2 => if leap then 29 else 28
  | 4 | 6 | 9 | 11 => 30
  | _ => 31

def text (d : Date) : String :=
  padded 4 d.year ++ "-" ++ padded 2 d.month ++ "-" ++ padded 2 d.day

end Date

namespace TimeOfDay

/-- The part of a second, with its point; nothing for a whole second. -/
def fraction (nanosecond : Nat) : String :=
  if nanosecond = 0 then ""
  else
    "." ++ String.ofList (((padded 9 nanosecond).toList.reverse.dropWhile (· = '0')).reverse)

def text (t : TimeOfDay) : String :=
  padded 2 t.hour ++ ":" ++ padded 2 t.minute ++ ":" ++ padded 2 t.second ++ fraction t.nanosecond

end TimeOfDay

def Offset.text : Offset → String
  | utc => "Z"
  | minutes m =>
    (if m < 0 then "-" else "+") ++ padded 2 (m.natAbs / 60) ++ ":" ++ padded 2 (m.natAbs % 60)

def Moment.text : Moment → String
  | date d => d.text
  | time t => t.text
  | dateTime d t => d.text ++ "T" ++ t.text
  | instant d t o => d.text ++ "T" ++ t.text ++ o.text

end LexTree.Toml
