import Shoreline.Proofs.Calendar.MonthLength

/-!
# `Shoreline.Proofs.Calendar.Columns` — the month stands in the columns of its weekdays

The empty places in front of a month are counted by the weekday of its first day, the cells by the length of
the month, and each cell takes the name of its weekday from its own date. That the three fit, so that a cell
stands in the column of its weekday, is because days are numbered: the cell `k` places behind the first one is
`k` days later, and a day's column is its number modulo seven.

## Contents
- `weekdayNames`, `weekdayNames_column`; `column_ofDayNumber`.
- `DatesOf.length`, `DatesOf.of_getElem?`, `number_eq_of_day`: the dates of a month by their place.
- `gridOf`, with `of_getElem?_gridOf`: the cells of some dates behind empty places.
- `InColumns`: what a month in columns is; `DatesOf.inColumns`, `monthGrid_isOk_iff`.
- `month_in_columns`, with a February of four weeks.
-/

namespace Shoreline.Calendar

open Time

/-! ## Weekdays -/

/-- The Korean names of the days of the week, Sunday first. -/
def weekdayNames : List String := ["일", "월", "화", "수", "목", "금", "토"]

/-- The name of a weekday is that of its column. -/
theorem weekdayNames_column (d : Weekday) : weekdayNames[d.column]? = some d.label := by
  cases d <;> rfl

/-- Days go through the columns in turn; day zero, a Thursday, is in column four. -/
theorem column_ofDayNumber (n : Int) : ((Weekday.ofDayNumber n).column : Int) = (n + 4) % 7 := by
  have hcases : (n + 4) % 7 = 0 ∨ (n + 4) % 7 = 1 ∨ (n + 4) % 7 = 2 ∨ (n + 4) % 7 = 3 ∨
      (n + 4) % 7 = 4 ∨ (n + 4) % 7 = 5 ∨ (n + 4) % 7 = 6 := by
    omega
  unfold Weekday.ofDayNumber
  rcases hcases with h | h | h | h | h | h | h <;> rw [h] <;> rfl

theorem column_lt (d : Weekday) : d.column < 7 := by
  cases d <;> decide

/-! ## Dates by their place -/

section DatesOf

variable {year : Int} {month hour : Nat} {dates : List Date}

theorem DatesOf.length (h : DatesOf year month dates) : dates.length = monthLength year month := by
  have hdays := congrArg List.length h.days
  rwa [List.length_map, List.length_range'] at hdays

/-- The dates of a month stand in the order of their days. -/
theorem DatesOf.of_getElem? (h : DatesOf year month dates) {k : Nat} {date : Date}
    (hk : dates[k]? = some date) : date.year = year ∧ date.month = month ∧ date.day = k + 1 := by
  obtain ⟨hyear, hmonth⟩ := h.inMonth date (List.mem_of_getElem? hk)
  obtain ⟨hlt, -⟩ := List.getElem?_eq_some_iff.mp hk
  have hday : (dates.map Date.day)[k]? = some date.day := by rw [List.getElem?_map, hk, Option.map_some]
  rw [h.length] at hlt
  rw [h.days, List.getElem?_range' hlt] at hday
  refine ⟨hyear, hmonth, ?_⟩
  have hsame := Option.some.inj hday
  omega

/-- Days of one month are apart by their numbers. -/
theorem number_eq_of_day {first date : Date} (hfirst : first.year = year ∧ first.month = month ∧ first.day = 1)
    {k : Nat} (h : date.year = year ∧ date.month = month ∧ date.day = k + 1) :
    date.number = first.number + k := by
  unfold Date.number dayNumber
  rw [hfirst.1, hfirst.2.1, hfirst.2.2, h.1, h.2.1, h.2.2]
  omega

/-! ## Cells behind empty places -/

/-- The cells of some dates at an hour, behind empty places. -/
def gridOf (column hour : Nat) (dates : List Date) : List (Option Cell) :=
  List.replicate column none ++ dates.map (cellAt hour)

theorem length_gridOf (column hour : Nat) (dates : List Date) :
    (gridOf column hour dates).length = column + dates.length := by
  simp [gridOf]

theorem getElem?_gridOf_of_lt {column i : Nat} (h : i < column) (hour : Nat) (dates : List Date) :
    (gridOf column hour dates)[i]? = some none := by
  unfold gridOf
  rw [List.getElem?_append_left (by rwa [List.length_replicate]), List.getElem?_replicate_of_lt h]

theorem getElem?_gridOf_add (column hour : Nat) (dates : List Date) (k : Nat) :
    (gridOf column hour dates)[column + k]? = dates[k]?.map (cellAt hour) := by
  unfold gridOf
  rw [List.getElem?_append_right (by rw [List.length_replicate]; exact Nat.le_add_right column k),
    List.length_replicate, Nat.add_sub_cancel_left, List.getElem?_map]

/-- What is in a cell is a date, so many places behind the first as it is behind the empty ones. -/
theorem of_getElem?_gridOf {column i : Nat} {cell : Cell}
    (h : (gridOf column hour dates)[i]? = some (some cell)) :
    ∃ k date, i = column + k ∧ dates[k]? = some date ∧ cell = ⟨date, onDate date hour⟩ := by
  by_cases hempty : i < column
  · rw [getElem?_gridOf_of_lt hempty] at h
    cases h
  · obtain ⟨k, rfl⟩ := Nat.exists_eq_add_of_le (Nat.le_of_not_lt hempty)
    rw [getElem?_gridOf_add] at h
    obtain ⟨date, hdate, hcell⟩ := Option.map_eq_some_iff.mp h
    exact ⟨k, date, rfl, hdate, (Option.some.inj hcell).symm⟩

end DatesOf

/-! ## A month in columns -/

/-- The cells are those of a month at an hour, in the columns of a week: less than a week of empty places,
then one cell for each day in order, and nothing else. Each cell stands in the column of its weekday, counted
from a Thursday with number zero, and has its name; it says what is expected on that day at the hour; and it
is for the day after that of the cell in front of it. -/
structure InColumns (year : Int) (month hour days column : Nat) (cells : List (Option Cell)) : Prop where
  column_lt : column < 7
  length : cells.length = column + days
  empty : ∀ i : Nat, i < column → cells[i]? = some none
  filled : ∀ k : Nat, k < days → ∃ cell, cells[column + k]? = some (some cell) ∧
    cell.date.year = year ∧ cell.date.month = month ∧ cell.day = k + 1
  weekday : ∀ (i : Nat) (cell : Cell), cells[i]? = some (some cell) →
    weekdayNames[i % 7]? = some cell.weekday ∧ (cell.date.number + 4) % 7 = (i % 7 : Nat)
  status : ∀ (i : Nat) (cell : Cell), cells[i]? = some (some cell) →
    congestionAt year month cell.day hour = .ok cell.status
  consecutive : ∀ (i : Nat) (cell next : Cell), cells[i]? = some (some cell) →
    cells[i + 1]? = some (some next) → next.date.pred? = some cell.date

/-- **The dates of a month, behind as many empty places as the column of the first, are in columns.** -/
theorem DatesOf.inColumns {first : Date} {dates : List Date} (h : DatesOf first.year first.month dates)
    (hday : first.day = 1) {hour : Nat} (hhour : hour ≤ 23) :
    InColumns first.year first.month hour (monthLength first.year first.month) first.weekday.column
      (gridOf first.weekday.column hour dates) where
  column_lt := column_lt first.weekday
  length := by rw [length_gridOf, h.length]
  empty := by
    intro i hi
    exact getElem?_gridOf_of_lt hi hour dates
  filled := by
    intro k hk
    have hlt : k < dates.length := by rwa [h.length]
    refine ⟨⟨dates[k], onDate dates[k] hour⟩, ?_, h.of_getElem? (List.getElem?_eq_getElem hlt)⟩
    rw [getElem?_gridOf_add, List.getElem?_eq_getElem hlt]
    rfl
  weekday := by
    intro i cell hcell
    obtain ⟨k, date, rfl, hdate, rfl⟩ := of_getElem?_gridOf hcell
    have hnumber := number_eq_of_day ⟨rfl, rfl, hday⟩ (h.of_getElem? hdate)
    have hfirst : (first.weekday.column : Int) = (first.number + 4) % 7 := column_ofDayNumber first.number
    have hcolumn : (date.weekday.column : Int) = (date.number + 4) % 7 := column_ofDayNumber date.number
    -- the column of the first and the days since make the column of the date
    have hplace : (first.weekday.column + k) % 7 = date.weekday.column := by omega
    rw [hplace]
    exact ⟨weekdayNames_column date.weekday, hcolumn.symm⟩
  status := by
    intro i cell hcell
    obtain ⟨k, date, -, hdate, rfl⟩ := of_getElem?_gridOf hcell
    obtain ⟨hyear, hmonth⟩ := h.inMonth date (List.mem_of_getElem? hdate)
    rw [← hyear, ← hmonth]
    exact View.congestionAt_date date hhour
  consecutive := by
    intro i cell next hcell hnext
    obtain ⟨k, date, rfl, hdate, rfl⟩ := of_getElem?_gridOf hcell
    obtain ⟨k', later, hk', hlater, rfl⟩ := of_getElem?_gridOf hnext
    have hnumber := number_eq_of_day ⟨rfl, rfl, hday⟩ (h.of_getElem? hdate)
    have hnumber' := number_eq_of_day ⟨rfl, rfl, hday⟩ (h.of_getElem? hlater)
    refine Date.pred?_eq_some_iff.mpr ?_
    show date.number + 1 = later.number
    omega

/-! ## The grid -/

variable {year : Int} {month hour : Nat}

/-- A month with a length is written in columns. -/
theorem monthGrid_of_hasLength (hhour : hour ≤ 23) (h : HasLength year month) :
    ∃ column cells, monthGrid year month hour = .ok cells ∧
      InColumns year month hour (monthLength year month) column cells := by
  obtain ⟨hstarts, hlast⟩ := hasLength_iff.mp h
  obtain ⟨first, hfirst⟩ := starts_iff_firstOfMonth.mp hstarts
  obtain ⟨rfl, rfl, hday⟩ := firstOfMonth_eq_ok_iff.mp hfirst
  obtain ⟨found, dates, hfound, hdates, hgrid⟩ := monthGrid_of_date (d := first) hhour hlast
  obtain rfl : first = found := Except.ok.inj (hfirst.symm.trans hfound)
  exact ⟨_, _, hgrid, hdates.inColumns hday hhour⟩

/-- **When a month is written.** The hour is one of a day, and the month and the following one begin on
dates. -/
theorem monthGrid_isOk_iff :
    (∃ cells, monthGrid year month hour = .ok cells) ↔ hour ≤ 23 ∧ HasLength year month := by
  constructor
  · rintro ⟨cells, hcells⟩
    constructor
    · by_contra hhour
      unfold monthGrid checkHour at hcells
      rw [if_neg hhour] at hcells
      cases hcells
    · by_contra hnone
      obtain ⟨fault, hfault⟩ := monthGrid_of_daysInMonth (daysInMonth_of_not_hasLength hnone) hour
      cases hcells.symm.trans hfault
  · rintro ⟨hhour, h⟩
    obtain ⟨_, cells, hcells, -⟩ := monthGrid_of_hasLength hhour h
    exact ⟨cells, hcells⟩

/-- **A month stands in the columns of its weekdays.** Whatever is asked for: if there is a grid, it has less
than a week of empty places and then one cell for each day that the month has, in order, and nothing else; the
cell at a place has the date of its day, the name of the weekday that belongs to the column of the place, which
is the weekday of the date, and what is expected for the day at the hour; and dates that follow each other are
of days that do. There is a grid exactly if the hour is one of a day and both the month and the following one
begin on a date. -/
theorem month_in_columns (year : Int) (month hour : Nat) :
    (∀ cells, monthGrid year month hour = .ok cells → ∃ days column,
      daysInMonth year month = .ok days ∧ InColumns year month hour days column cells) ∧
    ((∃ cells, monthGrid year month hour = .ok cells) ↔
      hour ≤ 23 ∧ Starts year month ∧ Starts (following year month).1 (following year month).2) := by
  refine ⟨?_, monthGrid_isOk_iff⟩
  intro cells hcells
  obtain ⟨hhour, h⟩ := monthGrid_isOk_iff.mp ⟨cells, hcells⟩
  obtain ⟨column, found, hfound, hcolumns⟩ := monthGrid_of_hasLength hhour h
  obtain rfl : cells = found := Except.ok.inj (hcells.symm.trans hfound)
  exact ⟨monthLength year month, column, daysInMonth_of_hasLength h, hcolumns⟩

/-- A February of twenty-eight days that begins on a Sunday: it fills four weeks, and the last place is a
Saturday. -/
theorem month_in_columns_february :
    ∃ cells cell, monthGrid 2026 2 9 = .ok cells ∧ InColumns 2026 2 9 28 0 cells ∧
      cells[27]? = some (some cell) ∧ cell.day = 28 ∧ cell.weekday = "토" := by
  obtain ⟨hcolumns, hwritten⟩ := month_in_columns 2026 2 9
  obtain ⟨cells, hcells⟩ := hwritten.mpr (by decide)
  obtain ⟨days, column, hdays, h⟩ := hcolumns cells hcells
  have hlength : daysInMonth 2026 2 = .ok 28 := by rfl
  obtain rfl : 28 = days := Except.ok.inj (hlength.symm.trans hdays)
  obtain ⟨first, hfirst, hyear, hmonth, hday⟩ := h.filled 0 (by decide)
  obtain ⟨cell, hcell, -, -, hlast⟩ := h.filled 27 (by decide)
  -- the first of the month is a Sunday, so no place in front of it is empty
  have hnumber : first.date.number = 20485 := by
    have hsame : first.date.day = 1 := hday
    unfold Date.number
    rw [hyear, hmonth, hsame]
    decide
  have hsunday := (h.weekday (column + 0) first hfirst).2
  have hcolumn := h.column_lt
  obtain rfl : 0 = column := by omega
  have hname := (h.weekday (0 + 27) cell hcell).1
  exact ⟨cells, cell, hcells, h, hcell, hlast, (Option.some.inj hname).symm⟩

end Shoreline.Calendar
