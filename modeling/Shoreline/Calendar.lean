import Shoreline.Reservation

/-!
# `Shoreline.Calendar` — how crowded the hours of a month are expected to be

The calendar colours each day of a month by the congestion expected at one hour. The expectation
depends on the day of the month, the hour and whether the day is on a weekend, and on nothing else,
so the month and a single slot always agree.

## Contents
- `CalendarFault`: months, days and hours that do not exist.
- `expected`, `congestionAt`: the expectation for a slot.
- `daysInMonth`, `firstColumn`, `monthGrid`: the month as a grid of weekdays.
- `hourText`.
-/

namespace Shoreline

open Time

/-! ## Faults -/

/-- A part of a date or time that does not exist. -/
inductive CalendarFault
  | month (month : Nat)
  | day (year : Int) (month day : Nat)
  | hour (hour : Nat)
deriving DecidableEq, Repr

/-- What is said about a fault. -/
def CalendarFault.message : CalendarFault → String
  | month m => "Invalid month: " ++ String.ofList (Decimal.numeral m)
  | day y m d =>
    "Invalid day " ++ String.ofList (Decimal.numeral d) ++ " for " ++ String.ofList (Decimal.signed y) ++
      "-" ++ String.ofList (Decimal.padded 2 m)
  | hour h => "Invalid hour: " ++ String.ofList (Decimal.numeral h)

namespace Calendar

/-! ## Dates -/

/-- The first day of a month. -/
def firstOfMonth (year : Int) (month : Nat) : Except CalendarFault Date :=
  match Date.of? year month 1 with
  | some d => .ok d
  | none => .error (.month month)

/-- A day of a month. -/
def dayOfMonth (year : Int) (month day : Nat) : Except CalendarFault Date :=
  match Date.of? year month day with
  | some d => .ok d
  | none => .error (.day year month day)

/-- An hour of the day. -/
def checkHour (hour : Nat) : Except CalendarFault Unit :=
  if hour ≤ 23 then .ok () else .error (.hour hour)

/-- The year and month behind a month. -/
def following (year : Int) (month : Nat) : Int × Nat :=
  if month = 12 then (year + 1, 1) else (year, month + 1)

/-- The year and month in front of a month. -/
def preceding (year : Int) (month : Nat) : Int × Nat :=
  if month = 1 then (year - 1, 12) else (year, month - 1)

/-- How many days a month has: the number of the day before the first of the following month, so that
one must exist too. -/
def daysInMonth (year : Int) (month : Nat) : Except CalendarFault Nat := do
  let _ ← firstOfMonth year month
  let next ← firstOfMonth (following year month).1 (following year month).2
  match next.pred? with
  | some last => .ok last.day
  | none => .error (.month month)

/-- The column in which a month begins, Sunday first. -/
def firstColumn (year : Int) (month : Nat) : Except CalendarFault Nat := do
  let first ← firstOfMonth year month
  return first.weekday.column

/-! ## Congestion -/

/-- A choice between seven, by day and hour. -/
def seed (day hour : Nat) : Nat := (day * 100 + hour) % 7

/-- The congestion expected on a day of the month at an hour. On weekends noon to evening is busy,
with an hour or two of change around it; on other days less so. -/
def expected (day hour : Nat) (weekend : Bool) : Congestion :=
  let s := seed day hour
  if weekend then
    if 11 ≤ hour ∧ hour ≤ 17 then if s < 5 then .busy else .normal
    else if hour = 9 ∨ hour = 10 ∨ hour = 18 ∨ hour = 19 then
      if s ≤ 2 then .normal else if s ≤ 5 then .busy else .free
    else if s < 5 then .free else .normal
  else
    if 12 ≤ hour ∧ hour ≤ 16 then if s < 4 then .busy else .normal
    else if hour = 10 ∨ hour = 11 ∨ hour = 17 ∨ hour = 18 then
      if s ≤ 2 then .normal else if s ≤ 5 then .free else .busy
    else if s < 6 then .free else .normal

/-- The congestion expected on a date at an hour. -/
def onDate (d : Date) (hour : Nat) : Congestion := expected d.day hour d.weekday.isWeekend

/-- The congestion of a slot. -/
def congestionAt (year : Int) (month day hour : Nat) : Except CalendarFault Congestion := do
  checkHour hour
  let d ← dayOfMonth year month day
  return onDate d hour

/-! ## The month -/

/-- A day of the month in the grid. -/
structure Cell where
  date : Date
  status : Congestion
deriving DecidableEq, Repr

namespace Cell

/-- The number of the day in its month. -/
def day (c : Cell) : Nat := c.date.day

/-- The Korean name of the day of the week. -/
def weekday (c : Cell) : String := c.date.weekday.label

end Cell

/-- A month in the columns of a week: empty cells up to the column of the first day, then a cell for
each day. -/
def monthGrid (year : Int) (month hour : Nat) : Except CalendarFault (List (Option Cell)) := do
  checkHour hour
  let column ← firstColumn year month
  let days ← daysInMonth year month
  let cells ← (List.range' 1 days).mapM (m := Except CalendarFault) fun day => do
    let date ← dayOfMonth year month day
    return some ⟨date, onDate date hour⟩
  return List.replicate column none ++ cells

/-- An hour as text, `09:00`. -/
def hourText (hour : Nat) : String := String.ofList (Decimal.padded 2 hour) ++ ":00"

end Calendar

end Shoreline
