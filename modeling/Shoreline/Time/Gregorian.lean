import Shoreline.Decimal.Numeral

/-!
# `Shoreline.Time.Gregorian` — the proleptic Gregorian calendar

Days are numbered from 1970-01-01. The calendar runs without end in both directions, with a year
zero; `dayNumber` turns year, month and day into the number of the day and `civil` turns it back. A
`Date` is a day that exists, in the years `minYear` to `maxYear` that the program can represent.

## Contents
- `isLeap`, `monthLength`, `daysBeforeMonth`, `daysBeforeYear`, `dayNumber`.
- `Civil` and `civil`: year, month and day of any day number.
- `Date`, with `Date.of?`, `Date.pred?`, `Date.weekday` and its ISO text.
- `Weekday`: the days of the week, Sunday first, with their Korean names.
-/

namespace Shoreline.Time

/-! ## Months and years -/

/-- Every fourth year is a leap year, except the hundreds that are not four-hundreds. -/
def isLeap (year : Int) : Bool := year % 4 == 0 && (year % 100 != 0 || year % 400 == 0)

/-- The number of days of a month; zero where there is no such month. -/
def monthLength (year : Int) : Nat → Nat
  | 1 | 3 | 5 | 7 | 8 | 10 | 12 => 31
  | 4 | 6 | 9 | 11 => 30
  | 2 => if isLeap year then 29 else 28
  | _ => 0

/-- The months that have days are the twelve. -/
theorem monthLength_pos_iff {year : Int} {month : Nat} :
    0 < monthLength year month ↔ 1 ≤ month ∧ month ≤ 12 := by
  constructor
  · intro h
    unfold monthLength at h
    split at h <;> omega
  · rintro ⟨hlow, hhigh⟩
    unfold monthLength
    split
    case h_12 => split <;> decide
    all_goals grind

/-- The days of a year that precede a month. -/
def daysBeforeMonth (year : Int) : Nat → Nat
  | 0 => 0
  | 1 => 0
  | m + 2 => daysBeforeMonth year (m + 1) + monthLength year (m + 1)

/-- The days from the first of January of year one to the first of January of `year`. -/
def daysBeforeYear (year : Int) : Int :=
  365 * (year - 1) + (year - 1) / 4 - (year - 1) / 100 + (year - 1) / 400

/-- The number of the day before the first of January of year one. -/
def dayZero : Int := -719163

/-- The number of a day, counted from 1970-01-01. -/
def dayNumber (year : Int) (month day : Nat) : Int :=
  dayZero + daysBeforeYear year + daysBeforeMonth year month + day

/-- A year is as long as its leap rule says. -/
theorem daysBeforeYear_succ (year : Int) :
    daysBeforeYear (year + 1) = daysBeforeYear year + if isLeap year then 366 else 365 := by
  unfold daysBeforeYear isLeap
  simp only [Bool.and_eq_true, Bool.or_eq_true, beq_iff_eq, bne_iff_ne, ne_eq]
  split <;> omega

/-! ## From day numbers back to dates -/

/-- Year, month and day. -/
structure Civil where
  year : Int
  month : Nat
  day : Nat
deriving DecidableEq, Repr

/-- The year that holds the `n`-th day from the start of year one, counted from one. The estimate by
the mean length of a year is off by one at most. -/
def yearOf (n : Int) : Int :=
  let guess := (n - 1) * 400 / 146097 + 1
  if n ≤ daysBeforeYear guess then guess - 1
  else if daysBeforeYear (guess + 1) < n then guess + 1
  else guess

/-- The month that holds the `n`-th day of a year, and the days before that month: the last of the
months up to `m` that begins before the day. -/
def monthOf (year : Int) (n : Nat) : Nat → Nat
  | 0 => 1
  | m + 1 => if daysBeforeMonth year (m + 1) < n then m + 1 else monthOf year n m

/-- Year, month and day of a day number. -/
def civil (number : Int) : Civil :=
  let n := number - dayZero
  let year := yearOf n
  let dayOfYear := (n - daysBeforeYear year).toNat
  let month := monthOf year dayOfYear 12
  ⟨year, month, dayOfYear - daysBeforeMonth year month⟩

/-- **The estimated year holds the day.** -/
theorem yearOf_spec (n : Int) :
    daysBeforeYear (yearOf n) < n ∧ n ≤ daysBeforeYear (yearOf n + 1) := by
  unfold yearOf
  simp only
  split
  · next h => unfold daysBeforeYear at h ⊢; omega
  · split
    · next h => unfold daysBeforeYear at h ⊢; omega
    · omega

/-! ## Weekdays -/

/-- A day of the week. -/
inductive Weekday
  | sunday | monday | tuesday | wednesday | thursday | friday | saturday
deriving DecidableEq, Repr

namespace Weekday

/-- The days of the week in the order of a calendar's columns. -/
def all : List Weekday := [sunday, monday, tuesday, wednesday, thursday, friday, saturday]

/-- The column of a day, Sunday first. -/
def column : Weekday → Nat
  | sunday => 0 | monday => 1 | tuesday => 2 | wednesday => 3
  | thursday => 4 | friday => 5 | saturday => 6

/-- The short Korean name. -/
def label : Weekday → String
  | sunday => "일" | monday => "월" | tuesday => "화" | wednesday => "수"
  | thursday => "목" | friday => "금" | saturday => "토"

/-- Saturday and Sunday. -/
def isWeekend (d : Weekday) : Bool := d.column % 6 == 0

/-- The day of the week of a day number; day zero was a Thursday. -/
def ofDayNumber (number : Int) : Weekday :=
  match (number + 4) % 7 with
  | 0 => sunday | 1 => monday | 2 => tuesday | 3 => wednesday
  | 4 => thursday | 5 => friday | _ => saturday

end Weekday

/-! ## Dates -/

/-- The first year of the dates. -/
def minYear : Int := -262143

/-- The last year of the dates. -/
def maxYear : Int := 262142

/-- A day that exists, in a year that can be represented. -/
structure Date where
  year : Int
  month : Nat
  day : Nat
  inRange : minYear ≤ year ∧ year ≤ maxYear
  exists_day : 1 ≤ day ∧ day ≤ monthLength year month
deriving DecidableEq, Repr

namespace Date

/-- The date with these parts, if there is one. -/
def of? (year : Int) (month day : Nat) : Option Date :=
  if h : (minYear ≤ year ∧ year ≤ maxYear) ∧ (1 ≤ day ∧ day ≤ monthLength year month) then
    some ⟨year, month, day, h.1, h.2⟩
  else none

/-- The number of the day. -/
def number (d : Date) : Int := dayNumber d.year d.month d.day

/-- The date of a day number, if it can be represented. -/
def ofNumber? (n : Int) : Option Date :=
  let c := civil n
  of? c.year c.month c.day

/-- The day before. -/
def pred? (d : Date) : Option Date :=
  if 1 < d.day then of? d.year d.month (d.day - 1)
  else if 1 < d.month then of? d.year (d.month - 1) (monthLength d.year (d.month - 1))
  else of? (d.year - 1) 12 31

/-- The day of the week. -/
def weekday (d : Date) : Weekday := Weekday.ofDayNumber d.number

/-- A date has one of the twelve months. -/
theorem month_mem (d : Date) : 1 ≤ d.month ∧ d.month ≤ 12 := by
  have h := d.exists_day
  exact monthLength_pos_iff.mp (Nat.lt_of_lt_of_le h.1 h.2)

/-- `of?` finds a date exactly where one exists. -/
theorem of?_isSome (year : Int) (month day : Nat) :
    (of? year month day).isSome = true ↔
      (minYear ≤ year ∧ year ≤ maxYear) ∧ (1 ≤ day ∧ day ≤ monthLength year month) := by
  unfold of?
  split <;> simp_all

end Date

/-! ## Texts -/

/-- A year in a date text: four digits, with a sign outside the years 0 to 9999. -/
def writeYear (year : Int) : List Char :=
  if 0 ≤ year ∧ year ≤ 9999 then Decimal.padded 4 year.natAbs
  else (if year < 0 then '-' else '+') :: Decimal.padded 4 year.natAbs

/-- A date as year, month and day, `2030-08-15`. -/
def writeDay (year : Int) (month day : Nat) : List Char :=
  writeYear year ++ '-' :: Decimal.padded 2 month ++ '-' :: Decimal.padded 2 day

namespace Date

/-- The ISO text of a date. -/
def iso (d : Date) : String := String.ofList (writeDay d.year d.month d.day)

/-- A date in Korean with the day of the week, `2024년 8월 15일 (목)`. -/
def korean (d : Date) : String :=
  String.ofList (Decimal.signed d.year) ++ "년 " ++ String.ofList (Decimal.numeral d.month) ++ "월 " ++
    String.ofList (Decimal.numeral d.day) ++ "일 (" ++ d.weekday.label ++ ")"

end Date

end Shoreline.Time
