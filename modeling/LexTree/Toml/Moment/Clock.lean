import LexTree.Toml.Moment

/-!
# Points in time

- `Toml.Moment.ofSeconds` is the date and time so many seconds after the start of
  1970, in universal time.
-/

namespace LexTree.Toml

/-- The days of a year. -/
def daysOfYear (year : Nat) : Nat := 337 + Date.daysIn year 2

/-- The date so many days after the start of a year. -/
def dateInYear (year days : Nat) : Date :=
  let (month, day) := (List.range 11).foldl (fun (month, day) _ =>
    let length := Date.daysIn year month
    if month < 13 ∧ day ≥ length then (month + 1, day - length) else (month, day)) (1, days)
  ⟨year, month, day + 1⟩

/-- The year and the day in it so many days after the start of a year. -/
def yearAndDay : Nat → Nat → Nat → Nat × Nat
  | 0, year, days => (year, days)
  | fuel + 1, year, days =>
    if days < daysOfYear year then (year, days)
    else yearAndDay fuel (year + 1) (days - daysOfYear year)

/-- The moment so many seconds after the start of 1970. -/
def Moment.ofSeconds (seconds nanoseconds : Nat) : Moment :=
  let (year, day) := yearAndDay (seconds / 86400 / 365) 1970 (seconds / 86400)
  .instant (dateInYear year day)
    ⟨seconds / 3600 % 24, seconds / 60 % 60, seconds % 60, nanoseconds⟩ .utc

end LexTree.Toml
