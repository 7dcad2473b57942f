import Shoreline.Calendar

/-!
# `Shoreline.Calendar.View` — the calendar as the user moves through it

A view shows a month at an hour and may have a date selected. The selected date stays when another
month is shown. A call that asks for something that does not exist changes nothing.

## Contents
- `Slot`: a date, an hour and what is expected then.
- `Calendar.View` with `opened`, `showMonth`, `previousMonth`, `nextMonth`, `selectDate`,
  `selectHour`, `selected`, `grid`.
-/

namespace Shoreline

open Time

/-- A date and an hour, with the congestion expected then. -/
structure Slot where
  date : Date
  hour : Nat
  status : Congestion
deriving DecidableEq, Repr

namespace Slot

/-- The Korean name of the day of the week. -/
def weekday (s : Slot) : String := s.date.weekday.label

/-- Date, hour and congestion in one line, `2024년 8월 15일 (목) 14:00 · 혼잡`. -/
def summary (s : Slot) : String :=
  s.date.korean ++ " " ++ Calendar.hourText s.hour ++ " · " ++ s.status.label

end Slot

namespace Calendar

/-- What a calendar shows. -/
structure View where
  year : Int
  month : Nat
  hour : Nat
  selectedDate : Option Date
deriving DecidableEq, Repr

namespace View

/-- The calendar as it is opened at an instant: the local month and hour, and no date. -/
def opened (now : Instant) (offset : Offset) : View :=
  let here := now.localParts offset
  ⟨here.date.year, here.date.month, here.hour, none⟩

/-- Show a month. -/
def showMonth (v : View) (year : Int) (month : Nat) : Except CalendarFault View := do
  let _ ← firstOfMonth year month
  return { v with year := year, month := month }

/-- Show the month before. -/
def previousMonth (v : View) : View :=
  { v with year := (preceding v.year v.month).1, month := (preceding v.year v.month).2 }

/-- Show the month after. -/
def nextMonth (v : View) : View :=
  { v with year := (following v.year v.month).1, month := (following v.year v.month).2 }

/-- The slot of a date at the hour of the view. -/
def slot (v : View) (date : Date) : Slot := ⟨date, v.hour, onDate date v.hour⟩

/-- The selected slot. -/
def selected (v : View) : Option Slot := v.selectedDate.map v.slot

/-- Select a day of the month that is shown. -/
def selectDate (v : View) (day : Nat) : Except CalendarFault (View × Slot) := do
  let date ← dayOfMonth v.year v.month day
  return ({ v with selectedDate := some date }, v.slot date)

/-- Select an hour; the date stays as it is. -/
def selectHour (v : View) (hour : Nat) : Except CalendarFault View := do
  checkHour hour
  return { v with hour := hour }

/-- The month that is shown, empty if it has no grid. -/
def grid (v : View) : List (Option Cell) :=
  match monthGrid v.year v.month v.hour with
  | .ok cells => cells
  | .error _ => []

end View

end Calendar

end Shoreline
