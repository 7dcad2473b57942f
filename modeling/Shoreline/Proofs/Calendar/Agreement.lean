import Mathlib.Data.List.Nodup
import Shoreline.Proofs.Calendar.Moves

/-!
# `Shoreline.Proofs.Calendar.Agreement` — the grid, the slot and the expectation agree

What is expected for a date is said in three places: for a slot of a calendar by its parts
(`congestionAt`), in the summary of the selected slot, and in the cells of the month that is shown. The
selected date stays when another month is shown, so the three are about the same date only while its month
is. Then they say the same: the grid holds one cell for the date, and what the cell says is what the slot
says and what is expected for year, month and day of the date.

## Contents
- `daysInMonth_of_date`: a month is as long as its length says, unless it is the last of all.
- `DatesOf`, the dates of a month; `dayCell`, `dates_of_days`, `monthGrid_of_date`,
  `monthGrid_of_daysInMonth`.
- `View.cellsOf`, `View.cellsOf_date`, `View.grid_last`.
- `View.monthNumber`, with its steps.
- `View.calendar_agrees`, with a calendar whose date is out of sight for a while.
-/

namespace Shoreline.Calendar

open Time

/-! ## The length of a month -/

/-- No month follows the last month of the dates. -/
def IsLast (year : Int) (month : Nat) : Prop := year = maxYear ∧ month = 12

instance (year : Int) (month : Nat) : Decidable (IsLast year month) :=
  inferInstanceAs (Decidable (year = maxYear ∧ month = 12))

/-- The month after one that has a date begins, unless it was the last. -/
theorem firstOfMonth_following (d : Date) :
    (IsLast d.year d.month ∧ ∃ fault,
      firstOfMonth (following d.year d.month).1 (following d.year d.month).2 = .error fault) ∨
    ¬ IsLast d.year d.month ∧ ∃ first,
      firstOfMonth (following d.year d.month).1 (following d.year d.month).2 = .ok first := by
  obtain ⟨hlow, hhigh⟩ := d.inRange
  obtain ⟨hfirst, htwelfth⟩ := d.month_mem
  by_cases hlast : IsLast d.year d.month
  · obtain ⟨hyear, hmonth⟩ := hlast
    refine .inl ⟨⟨hyear, hmonth⟩, ?_⟩
    cases hnext : firstOfMonth (following d.year d.month).1 (following d.year d.month).2 with
    | error fault => exact ⟨fault, rfl⟩
    | ok first =>
      -- it would be a date of the year after the last
      obtain ⟨hnextYear, _⟩ := firstOfMonth_eq_ok_iff.mp hnext
      have hrange := first.inRange.2
      rw [hnextYear, following, if_pos hmonth, hyear] at hrange
      exact absurd hrange (by decide)
  · refine .inr ⟨hlast, ?_⟩
    have hyear : minYear ≤ (following d.year d.month).1 ∧ (following d.year d.month).1 ≤ maxYear := by
      unfold following
      split
      · next hmonth =>
        have hbefore : d.year ≠ maxYear := fun hyear => hlast ⟨hyear, hmonth⟩
        dsimp only
        omega
      · exact ⟨hlow, hhigh⟩
    have hmonth : 1 ≤ (following d.year d.month).2 ∧ (following d.year d.month).2 ≤ 12 := by
      unfold following
      split <;> dsimp only <;> omega
    exact ⟨⟨_, _, 1, hyear, Nat.le_refl 1, monthLength_pos_iff.mpr hmonth⟩,
      firstOfMonth_eq_ok_iff.mpr ⟨rfl, rfl, rfl⟩⟩

/-- The day before the first of the following month is the last day of the month. -/
theorem pred?_following {d first : Date}
    (h : firstOfMonth (following d.year d.month).1 (following d.year d.month).2 = .ok first) :
    ∃ last, first.pred? = some last ∧ last.day = monthLength d.year d.month := by
  obtain ⟨hyear, hmonth, hday⟩ := firstOfMonth_eq_ok_iff.mp h
  have hpos : 1 ≤ monthLength d.year d.month := Nat.le_trans d.exists_day.1 d.exists_day.2
  let last : Date := ⟨d.year, d.month, monthLength d.year d.month, d.inRange, hpos, Nat.le_refl _⟩
  have hlast : Date.of? d.year d.month (monthLength d.year d.month) = some last := last.of?_parts
  unfold following at hyear hmonth
  unfold Date.pred?
  rw [hday, if_neg (Nat.lt_irrefl 1)]
  by_cases htwelfth : d.month = 12
  · rw [if_pos htwelfth] at hyear hmonth
    rw [hmonth, if_neg (Nat.lt_irrefl 1), hyear]
    have hlength : monthLength d.year d.month = 31 := by rw [htwelfth]; rfl
    refine ⟨last, ?_, rfl⟩
    rw [← hlast, hlength, htwelfth]
    show Date.of? (d.year + 1 - 1) 12 31 = Date.of? d.year 12 31
    rw [Int.add_sub_cancel]
  · rw [if_neg htwelfth] at hyear hmonth
    have hlater : 1 < first.month := by
      rw [hmonth]
      exact Nat.succ_lt_succ (Nat.lt_of_lt_of_le Nat.zero_lt_one d.month_mem.1)
    rw [if_pos hlater, hmonth, hyear]
    exact ⟨last, hlast, rfl⟩

/-- **A month is as long as its length says**, unless it is the last of all. -/
theorem daysInMonth_of_date {d : Date} (h : ¬ IsLast d.year d.month) :
    daysInMonth d.year d.month = .ok (monthLength d.year d.month) := by
  obtain ⟨first, hfirst⟩ := firstOfMonth_of_date d
  rcases firstOfMonth_following d with ⟨hlast, _⟩ | ⟨_, next, hnext⟩
  · exact absurd hlast h
  · obtain ⟨last, hpred, hday⟩ := pred?_following hnext
    unfold daysInMonth
    rw [hfirst, hnext, ← hday]
    dsimp only [bind, Except.bind]
    rw [hpred]

/-! ## The grid -/

/-- Two days of a month that are the same day are the same date. -/
theorem date_ext {d date : Date} (hyear : date.year = d.year) (hmonth : date.month = d.month)
    (hday : date.day = d.day) : date = d := by
  cases d
  cases date
  cases hyear
  cases hmonth
  cases hday
  rfl

/-- The dates of a month, one for each of its days. -/
structure DatesOf (year : Int) (month : Nat) (dates : List Date) : Prop where
  days : dates.map Date.day = List.range' 1 (monthLength year month)
  inMonth : ∀ date ∈ dates, date.year = year ∧ date.month = month

/-- Every date of the month is one of them. -/
theorem DatesOf.mem {dates : List Date} {d : Date} (h : DatesOf d.year d.month dates) : d ∈ dates := by
  have hday : d.day ∈ dates.map Date.day := by
    obtain ⟨hpos, hlength⟩ := d.exists_day
    rw [h.days, List.mem_range'_1]
    omega
  obtain ⟨date, hdate, hsame⟩ := List.mem_map.mp hday
  obtain ⟨hyear, hmonth⟩ := h.inMonth date hdate
  rw [← date_ext hyear hmonth hsame]
  exact hdate

/-- No date is there twice. -/
theorem DatesOf.nodup {year : Int} {month : Nat} {dates : List Date} (h : DatesOf year month dates) :
    dates.Nodup :=
  .of_map Date.day (h.days ▸ List.nodup_range')

/-- The cell of a date. -/
def cellAt (hour : Nat) (date : Date) : Option Cell := some ⟨date, onDate date hour⟩

/-- The cell of a day of a month. -/
def dayCell (year : Int) (month hour day : Nat) : Except CalendarFault (Option Cell) := do
  let date ← dayOfMonth year month day
  return some ⟨date, onDate date hour⟩

/-- The days of a month that has a date are days of dates, and have the cells of those. -/
theorem dates_of_days (d : Date) (hour : Nat) {days : List Nat}
    (h : ∀ day ∈ days, 1 ≤ day ∧ day ≤ monthLength d.year d.month) :
    ∃ dates : List Date, dates.map Date.day = days ∧
      (∀ date ∈ dates, date.year = d.year ∧ date.month = d.month) ∧
      days.mapM (dayCell d.year d.month hour) = .ok (dates.map (cellAt hour)) := by
  induction days with
  | nil => exact ⟨[], rfl, List.forall_mem_nil _, rfl⟩
  | cons day days ih =>
    obtain ⟨dates, hdays, hmonth, hcells⟩ := ih fun day' hday' => h day' (List.mem_cons_of_mem _ hday')
    let date : Date := ⟨d.year, d.month, day, d.inRange, h day List.mem_cons_self⟩
    have hdate : dayCell d.year d.month hour day = .ok (cellAt hour date) := by
      unfold dayCell
      rw [(dayOfMonth_eq_ok_iff (d := date)).mpr ⟨rfl, rfl, rfl⟩]
      rfl
    refine ⟨date :: dates, ?_, List.forall_mem_cons.mpr ⟨⟨rfl, rfl⟩, hmonth⟩, ?_⟩
    · rw [List.map_cons, hdays]
    · rw [List.mapM_cons, hdate, hcells]
      rfl

/-- **A month in cells**: nothing up to the column of its first day, then its dates; the last month of all
is not written. -/
theorem monthGrid_of_date {d : Date} {hour : Nat} (hhour : hour ≤ 23) (hlast : ¬ IsLast d.year d.month) :
    ∃ first dates, firstOfMonth d.year d.month = .ok first ∧ DatesOf d.year d.month dates ∧
      monthGrid d.year d.month hour =
        .ok (List.replicate first.weekday.column none ++ dates.map (cellAt hour)) := by
  obtain ⟨first, hfirst⟩ := firstOfMonth_of_date d
  have hlength : ∀ day ∈ List.range' 1 (monthLength d.year d.month),
      1 ≤ day ∧ day ≤ monthLength d.year d.month := by
    intro day hday
    rw [List.mem_range'_1] at hday
    omega
  obtain ⟨dates, hdays, hmonth, hcells⟩ := dates_of_days d hour hlength
  refine ⟨first, dates, hfirst, ⟨hdays, hmonth⟩, ?_⟩
  unfold monthGrid checkHour firstColumn
  rw [if_pos hhour, hfirst, daysInMonth_of_date hlast]
  show ((List.range' 1 (monthLength d.year d.month)).mapM (dayCell d.year d.month hour) >>= fun cells =>
    pure (List.replicate first.weekday.column none ++ cells)) = _
  rw [hcells]
  rfl

/-- There is no grid without a length of the month. -/
theorem monthGrid_of_daysInMonth {year : Int} {month : Nat} {fault : CalendarFault}
    (h : daysInMonth year month = .error fault) (hour : Nat) :
    ∃ fault', monthGrid year month hour = .error fault' := by
  unfold monthGrid
  rw [h]
  cases checkHour hour with
  | error fault' => exact ⟨fault', rfl⟩
  | ok _ =>
    cases firstColumn year month with
    | error fault' => exact ⟨fault', rfl⟩
    | ok column => exact ⟨fault, rfl⟩

/-- Whether a place in the grid is the cell of a date. -/
def isCellOf (d : Date) (place : Option Cell) : Bool := place.any (·.date = d)

/-- Among the cells of the dates of a month, one is the cell of a date. -/
theorem DatesOf.filter_cells {dates : List Date} {d : Date} (h : DatesOf d.year d.month dates)
    (hour : Nat) : (dates.map (cellAt hour)).filter (isCellOf d) = [cellAt hour d] := by
  have hcell : isCellOf d ∘ cellAt hour = fun date => date == d := rfl
  rw [List.filter_map, hcell, List.filter_beq, List.count_eq_one_of_mem h.nodup h.mem]
  rfl

namespace View

/-- The cells of a date in the grid of a calendar. -/
def cellsOf (v : View) (d : Date) : List (Option Cell) := v.grid.filter (isCellOf d)

/-- **The grid has one cell for each date of the month that is shown**, with what is expected then. -/
theorem cellsOf_date {v : View} (hhour : v.hour ≤ 23) {d : Date} (hyear : d.year = v.year)
    (hmonth : d.month = v.month) (hlast : ¬ IsLast d.year d.month) :
    v.cellsOf d = [some ⟨d, onDate d v.hour⟩] := by
  obtain ⟨first, dates, _, hdates, hmonthGrid⟩ := monthGrid_of_date hhour hlast
  have hgrid : v.grid = List.replicate first.weekday.column none ++ dates.map (cellAt v.hour) := by
    unfold grid
    rw [← hyear, ← hmonth, hmonthGrid]
  have hpadding : (List.replicate first.weekday.column none).filter (isCellOf d) = [] := by
    simp [isCellOf]
  rw [cellsOf, hgrid, List.filter_append, hpadding, hdates.filter_cells]
  rfl

/-- The last month of all has no grid. -/
theorem grid_last {v : View} (h : IsLast v.year v.month) : v.grid = [] := by
  obtain ⟨fault, hfault⟩ : ∃ fault, daysInMonth v.year v.month = .error fault := by
    rw [h.1, h.2]
    exact ⟨.month 1, rfl⟩
  obtain ⟨_, hmonthGrid⟩ := monthGrid_of_daysInMonth hfault v.hour
  unfold grid
  rw [hmonthGrid]

/-! ## The months in a row -/

/-- The months numbered in a row, twelve to a year. -/
def monthNumber (v : View) : Int := v.year * 12 + v.month

theorem monthNumber_previousMonth {v : View} (h : 1 ≤ v.month) :
    v.previousMonth.monthNumber = v.monthNumber - 1 := by
  show (preceding v.year v.month).1 * 12 + ((preceding v.year v.month).2 : Int) = v.year * 12 + v.month - 1
  unfold preceding
  split <;> dsimp only <;> omega

theorem monthNumber_nextMonth (v : View) : v.nextMonth.monthNumber = v.monthNumber + 1 := by
  show (following v.year v.month).1 * 12 + ((following v.year v.month).2 : Int) = v.year * 12 + v.month + 1
  unfold following
  split <;> dsimp only <;> omega

/-! ## Agreement -/

/-- What is expected for year, month and day of a date at an hour is what is expected on the date. -/
theorem congestionAt_date (d : Date) {hour : Nat} (h : hour ≤ 23) :
    congestionAt d.year d.month d.day hour = .ok (onDate d hour) := by
  unfold congestionAt checkHour
  rw [if_pos h, dayOfMonth_eq_ok_iff.mpr ⟨rfl, rfl, rfl⟩]
  rfl

/-- **A calendar agrees with itself wherever its user gets.** It shows one of the twelve months at an hour
of a day. A move is granted exactly where it leads somewhere, and one that is not changes nothing. The
month before and the month after are one month away and keep the hour and the date; selecting an hour keeps
the date. The slot of the selected date is at the hour of the calendar and says what is expected for year,
month and day of that date; and while the month of the date is shown, the grid has exactly one cell for
the date, with the same status, unless it has no cells at all, which is so in the last of all months
only. -/
theorem calendar_agrees {offset : Offset} {v : View} (reachable : v.Reachable offset) :
    (1 ≤ v.month ∧ v.month ≤ 12 ∧ v.hour ≤ 23) ∧
    (∀ m w, v.asked m = .ok w ↔ Leads v m w ∧ v.moved m = w) ∧
    (∀ m fault, v.asked m = .error fault → v.moved m = v) ∧
    (v.previousMonth.monthNumber = v.monthNumber - 1 ∧ v.previousMonth.hour = v.hour ∧
      v.previousMonth.selectedDate = v.selectedDate) ∧
    (v.nextMonth.monthNumber = v.monthNumber + 1 ∧ v.nextMonth.hour = v.hour ∧
      v.nextMonth.selectedDate = v.selectedDate) ∧
    (∀ hour, (v.moved (.selectHour hour)).selectedDate = v.selectedDate) ∧
    ∀ d, v.selectedDate = some d → ∃ status,
      v.selected = some ⟨d, v.hour, status⟩ ∧
      congestionAt d.year d.month d.day v.hour = .ok status ∧
      (d.year = v.year → d.month = v.month →
        (v.grid ≠ [] → v.cellsOf d = [some ⟨d, status⟩]) ∧ (v.grid = [] ↔ IsLast v.year v.month)) := by
  obtain ⟨hmonth, hhour⟩ := reachable.sound
  refine ⟨⟨hmonth.1, hmonth.2, hhour⟩, ?_, ?_, ⟨monthNumber_previousMonth hmonth.1, rfl, rfl⟩,
    ⟨v.monthNumber_nextMonth, rfl, rfl⟩, ?_, ?_⟩
  · intro m w
    refine ⟨fun hasked => ⟨asked_eq_ok_iff.mp hasked, ?_⟩, fun h => asked_eq_ok_iff.mpr h.1⟩
    rcases v.moved_cases m with ⟨hmoved, _⟩ | ⟨⟨fault, hfault⟩, _⟩
    · exact Except.ok.inj (hmoved.symm.trans hasked)
    · cases hfault.symm.trans hasked
  · intro m fault hasked
    rcases v.moved_cases m with ⟨hmoved, _⟩ | ⟨_, hstays⟩
    · cases hmoved.symm.trans hasked
    · exact hstays
  · intro hour
    rcases v.moved_cases (.selectHour hour) with ⟨_, hleads⟩ | ⟨_, hstays⟩
    · generalize v.moved (.selectHour hour) = w at hleads
      cases hleads
      rfl
    · rw [hstays]
  · intro d hd
    refine ⟨onDate d v.hour, ?_, congestionAt_date d hhour, fun hyear hmonth' => ?_⟩
    · rw [selected, hd]
      rfl
    · by_cases hlast : IsLast v.year v.month
      · have hempty := grid_last hlast
        exact ⟨fun hcells => absurd hempty hcells, iff_of_true hempty hlast⟩
      · have hcell : v.cellsOf d = [some ⟨d, onDate d v.hour⟩] := by
          refine cellsOf_date hhour hyear hmonth' ?_
          rw [hyear, hmonth']
          exact hlast
        have hfilled : v.grid ≠ [] := by
          intro hempty
          rw [cellsOf, hempty] at hcell
          cases hcell
        exact ⟨fun _ => hcell, iff_of_false hfilled hlast⟩

/-- A user goes to the August of 2030 and selects the 15th, looks at July, asks for an hour that no day
has, and comes back. -/
def returning : List Move :=
  [.showMonth 2030 8, .selectDate 15, .previousMonth, .selectHour 24, .selectHour 12, .nextMonth]

/-- The 15th of August 2030. -/
def midAugust : Date := ⟨2030, 8, 15, by decide, by decide⟩

/-- At the end the slot of that day is a busy one, and so is its one cell in the grid. -/
theorem calendar_agrees_returning :
    ((opened ⟨0, 0⟩ Offset.korea).movedAll returning).Reachable Offset.korea ∧
    ((opened ⟨0, 0⟩ Offset.korea).movedAll returning).selected = some ⟨midAugust, 12, .busy⟩ ∧
    ((opened ⟨0, 0⟩ Offset.korea).movedAll returning).cellsOf midAugust =
      [some ⟨midAugust, .busy⟩] := by
  have reachable : ((opened ⟨0, 0⟩ Offset.korea).movedAll returning).Reachable Offset.korea :=
    ⟨⟨0, 0⟩, returning, rfl⟩
  have hdate : ((opened ⟨0, 0⟩ Offset.korea).movedAll returning).selectedDate = some midAugust := by
    decide +kernel
  have hhour : ((opened ⟨0, 0⟩ Offset.korea).movedAll returning).hour = 12 := by decide +kernel
  have hshown : ((opened ⟨0, 0⟩ Offset.korea).movedAll returning).year = 2030 ∧
      ((opened ⟨0, 0⟩ Offset.korea).movedAll returning).month = 8 := by
    decide +kernel
  obtain ⟨_, _, _, _, _, _, hagrees⟩ := calendar_agrees reachable
  obtain ⟨status, hslot, hstatus, hgrid⟩ := hagrees midAugust hdate
  obtain ⟨hcell, hempty⟩ := hgrid hshown.1.symm hshown.2.symm
  rw [hhour] at hslot hstatus
  obtain rfl : Congestion.busy = status := Except.ok.inj hstatus
  refine ⟨reachable, hslot, hcell (mt hempty.mp fun hlast => ?_)⟩
  exact absurd (hlast.1.symm.trans hshown.1) (by decide)

end View

end Shoreline.Calendar
