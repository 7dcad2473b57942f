import Shoreline.Proofs.Calendar.MonthLength

/-!
# `Shoreline.Proofs.Calendar.Edge` — where a calendar has no grid

How long a month is, is read off the first of the following month. So a calendar has a grid while both the
month that is shown and the one after it have dates, and else it has none, whatever it was opened at and
however it was moved. No move asks for this: the last month of all is shown to whoever asks for it, and the
months before and after are shown without being looked for.

## Contents
- `View.WithinDates`: the calendars that have a grid; `monthGrid_within`, `monthGrid_beyond`.
- `View.Oversteps`: the moves to a month that has none; `withinDates_moved`, `withinDates_movedAll`.
- `View.grid_shows_month_iff`, with a calendar in front of the last month, and `View.last_month_empty`.
-/

namespace Shoreline.Calendar.View

open Time

/-! ## Calendars with a grid -/

/-- The month that is shown has dates, and so has the one after it. -/
def WithinDates (v : View) : Prop := minYear ≤ v.year ∧ v.year ≤ maxYear ∧ ¬ IsLast v.year v.month

instance (v : View) : Decidable v.WithinDates :=
  inferInstanceAs (Decidable (minYear ≤ v.year ∧ v.year ≤ maxYear ∧ ¬ IsLast v.year v.month))

variable {v : View}

/-- **Within the dates the grid is written**: nothing up to the column of the first day, then a cell for
each day of the month. -/
theorem monthGrid_within (sound : v.Sound) (h : v.WithinDates) :
    ∃ first dates, firstOfMonth v.year v.month = .ok first ∧ DatesOf v.year v.month dates ∧
      monthGrid v.year v.month v.hour =
        .ok (List.replicate first.weekday.column none ++ dates.map (cellAt v.hour)) := by
  obtain ⟨hlow, hhigh, hlast⟩ := h
  let first : Date :=
    ⟨v.year, v.month, 1, ⟨hlow, hhigh⟩, Nat.le_refl 1, monthLength_pos_iff.mpr sound.month⟩
  exact monthGrid_of_date (d := first) sound.hour hlast

/-- A month with a length has dates, and so has the one after it. -/
theorem withinDates_of_hasLength (h : HasLength v.year v.month) : v.WithinDates := by
  obtain ⟨hstarts, hlast⟩ := hasLength_iff.mp h
  obtain ⟨-, hlow, hhigh⟩ := starts_iff.mp hstarts
  exact ⟨hlow, hhigh, hlast⟩

/-- **Beyond the dates no grid is written.** -/
theorem monthGrid_beyond (h : ¬ v.WithinDates) :
    ∃ fault, monthGrid v.year v.month v.hour = .error fault := by
  have hnone : ¬ HasLength v.year v.month := fun hlength => h (withinDates_of_hasLength hlength)
  exact monthGrid_of_daysInMonth (daysInMonth_of_not_hasLength hnone) v.hour

/-! ## Moves beyond the dates -/

/-- The moves that lead beyond the dates: asking for the last month of all, going on to it, and going back
from the first. -/
def Oversteps (v : View) : Move → Prop
  | .showMonth year month => IsLast year month
  | .nextMonth => v.year = maxYear ∧ v.month = 11
  | .previousMonth => v.year = minYear ∧ v.month = 1
  | .selectDate _ => False
  | .selectHour _ => False

/-- A move beyond the dates is granted. -/
theorem asked_of_oversteps {m : Move} (h : v.Oversteps m) : ∃ w, v.asked m = .ok w := by
  cases m with
  | showMonth year month =>
    obtain ⟨rfl, rfl⟩ := h
    exact ⟨{ v with year := maxYear, month := 12 }, rfl⟩
  | previousMonth => exact ⟨v.previousMonth, rfl⟩
  | nextMonth => exact ⟨v.nextMonth, rfl⟩
  | selectDate day => exact h.elim
  | selectHour hour => exact h.elim

/-- Going back leads out of the dates from their first month only. -/
theorem withinDates_previousMonth (sound : v.Sound) (h : v.WithinDates) :
    v.previousMonth.WithinDates ↔ ¬ v.Oversteps .previousMonth := by
  obtain ⟨hlow, hhigh, hlast⟩ := h
  obtain ⟨hfirst, htwelfth⟩ := sound.month
  unfold IsLast at hlast
  unfold WithinDates IsLast Oversteps previousMonth preceding
  split <;> dsimp only <;> omega

/-- Going on leads to the last month of all from the one in front of it only. -/
theorem withinDates_nextMonth (sound : v.Sound) (h : v.WithinDates) :
    v.nextMonth.WithinDates ↔ ¬ v.Oversteps .nextMonth := by
  obtain ⟨hlow, hhigh, hlast⟩ := h
  obtain ⟨hfirst, htwelfth⟩ := sound.month
  unfold IsLast at hlast
  unfold WithinDates IsLast Oversteps nextMonth following
  split <;> dsimp only <;> omega

/-- Where a move leads is within the dates, like the calendar before it, unless the move oversteps. -/
theorem Leads.withinDates_iff {w : View} {m : Move} (hleads : Leads v m w) (sound : v.Sound)
    (h : v.WithinDates) : w.WithinDates ↔ ¬ v.Oversteps m := by
  cases hleads with
  | showMonth d => exact ⟨fun hwithin => hwithin.2.2, fun hlast => ⟨d.inRange.1, d.inRange.2, hlast⟩⟩
  | previousMonth => exact withinDates_previousMonth sound h
  | nextMonth => exact withinDates_nextMonth sound h
  | selectDate d _ _ => exact iff_of_true h id
  | selectHour _ => exact iff_of_true h id

/-- **A move within the dates stays there unless it oversteps.** -/
theorem withinDates_moved (sound : v.Sound) (h : v.WithinDates) (m : Move) :
    (v.moved m).WithinDates ↔ ¬ v.Oversteps m := by
  rcases v.moved_cases m with ⟨_, hleads⟩ | ⟨⟨fault, hfault⟩, hstays⟩
  · exact hleads.withinDates_iff sound h
  · rw [hstays]
    refine iff_of_true h fun hover => ?_
    obtain ⟨w, hasked⟩ := asked_of_oversteps hover
    cases hfault.symm.trans hasked

/-- **Moves none of which oversteps stay within the dates.** -/
theorem withinDates_movedAll (sound : v.Sound) (h : v.WithinDates) {moves : List Move}
    (hover : ∀ before m after, moves = before ++ m :: after → ¬ (v.movedAll before).Oversteps m) :
    (v.movedAll moves).WithinDates := by
  induction moves generalizing v with
  | nil => exact h
  | cons m moves ih =>
    have hstep : (v.moved m).WithinDates := (withinDates_moved sound h m).mpr (hover [] m moves rfl)
    exact ih (sound.moved m) hstep fun before m' after hmoves =>
      hover (m :: before) m' after (congrArg (m :: ·) hmoves)

/-! ## The grid of a calendar -/

/-- **A calendar has a grid exactly while it is within the dates.** Wherever its user gets, the month that
is shown can be written in cells if and only if it has dates and so has the month after it. Then the grid
is empty up to the column of the first of the month and goes on with one cell for each of its days, in
order, each with what is expected then at the hour of the calendar; beyond the dates there is nothing at
all in the grid. A move leads out of the dates in three cases only: the last month of all is asked for, it
is gone on to, or one goes back from the first. So a calendar that is opened within the dates keeps its
grid until one of these happens. -/
theorem grid_shows_month_iff {offset : Offset} (reachable : v.Reachable offset) :
    ((∃ cells, monthGrid v.year v.month v.hour = .ok cells) ↔ v.WithinDates) ∧
    (v.WithinDates → ∃ first dates, firstOfMonth v.year v.month = .ok first ∧
      DatesOf v.year v.month dates ∧
      v.grid = List.replicate first.weekday.column none ++ dates.map (cellAt v.hour)) ∧
    (¬ v.WithinDates → v.grid = []) ∧
    (v.WithinDates → ∀ m, (v.moved m).WithinDates ↔ ¬ v.Oversteps m) ∧
    ∀ moves, v.WithinDates →
      (∀ before m after, moves = before ++ m :: after → ¬ (v.movedAll before).Oversteps m) →
      (v.movedAll moves).WithinDates := by
  have sound := reachable.sound
  refine ⟨⟨?_, ?_⟩, ?_, ?_, withinDates_moved sound,
    fun _ hwithin => withinDates_movedAll sound hwithin⟩
  · rintro ⟨cells, hcells⟩
    by_contra hbeyond
    obtain ⟨fault, hfault⟩ := monthGrid_beyond hbeyond
    cases hcells.symm.trans hfault
  · intro hwithin
    obtain ⟨_, _, _, _, hcells⟩ := monthGrid_within sound hwithin
    exact ⟨_, hcells⟩
  · intro hwithin
    obtain ⟨first, dates, hfirst, hdates, hcells⟩ := monthGrid_within sound hwithin
    refine ⟨first, dates, hfirst, hdates, ?_⟩
    unfold grid
    rw [hcells]
  · intro hbeyond
    obtain ⟨fault, hfault⟩ := monthGrid_beyond hbeyond
    unfold grid
    rw [hfault]

/-- A calendar that is opened in 1970, in Korea, and shows the month in front of the last of all. -/
def november : View := (opened ⟨0, 0⟩ Offset.korea).moved (.showMonth maxYear 11)

/-- Its grid is that of November, and the next month has none. -/
theorem grid_shows_month_iff_november :
    november.Reachable Offset.korea ∧
    (∃ first dates, firstOfMonth maxYear 11 = .ok first ∧ DatesOf maxYear 11 dates ∧
      november.grid = List.replicate first.weekday.column none ++ dates.map (cellAt 9)) ∧
    (november.moved .nextMonth).grid = [] := by
  have reachable : november.Reachable Offset.korea := ⟨⟨0, 0⟩, [.showMonth maxYear 11], rfl⟩
  have next : (november.moved .nextMonth).Reachable Offset.korea :=
    ⟨⟨0, 0⟩, [.showMonth maxYear 11, .nextMonth], rfl⟩
  have hmonth : november.year = maxYear ∧ november.month = 11 := by decide +kernel
  have hhour : november.hour = 9 := by decide +kernel
  have hwithin : november.WithinDates := by decide +kernel
  obtain ⟨_, hgrid, _, hmoved, _⟩ := grid_shows_month_iff reachable
  obtain ⟨_, _, hempty, _⟩ := grid_shows_month_iff next
  refine ⟨reachable, ?_, hempty fun hstays => (hmoved hwithin .nextMonth).mp hstays hmonth⟩
  rw [hmonth.1, hmonth.2, hhour] at hgrid
  exact hgrid hwithin

/-- **The last month of all is shown to whoever asks for it and has no grid**, although it has the thirty-one
days of any December. -/
theorem last_month_empty :
    ∃ shown : View, shown.Reachable Offset.korea ∧
      (opened ⟨0, 0⟩ Offset.korea).asked (.showMonth maxYear 12) = .ok shown ∧
      (shown.year = maxYear ∧ shown.month = 12) ∧
      (∀ day, 1 ≤ day → day ≤ 31 → ∃ d, dayOfMonth shown.year shown.month day = .ok d) ∧
      shown.grid = [] := by
  refine ⟨{ opened ⟨0, 0⟩ Offset.korea with year := maxYear, month := 12 },
    ⟨⟨0, 0⟩, [.showMonth maxYear 12], rfl⟩, rfl, ⟨rfl, rfl⟩, ?_, grid_last ⟨rfl, rfl⟩⟩
  intro day hfirst hlast
  exact ⟨⟨maxYear, 12, day, by decide, hfirst, hlast⟩, dayOfMonth_eq_ok_iff.mpr ⟨rfl, rfl, rfl⟩⟩

end Shoreline.Calendar.View
