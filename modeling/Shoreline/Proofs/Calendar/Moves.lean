import Shoreline.Calendar.View
import Shoreline.Proofs.Time.Civil

/-!
# `Shoreline.Proofs.Calendar.Moves` — where a user gets in a calendar

A calendar is opened at an instant and moved by its user. `View.Leads` says where a move leads; a move
that leads nowhere is answered with a fault and changes nothing. So a calendar always shows one of the
twelve months at an hour of a day: it starts with those of a local clock, and no others are ever shown or
selected.

## Contents
- `Calendar.Move`, `View.moved`, `View.movedAll`; `View.Reachable` with `Reachable.induction`.
- `dayOfMonth_eq_ok_iff`, `firstOfMonth_eq_ok_iff`.
- `View.asked`, `View.Leads`; `asked_eq_ok_iff`, `moved_cases`.
- `View.Sound`, `View.Reachable.sound`, `View.Reachable.hour_le`.
-/

namespace Shoreline.Calendar

open Time

/-- What a user does to a calendar. -/
inductive Move
  | showMonth (year : Int) (month : Nat)
  | previousMonth
  | nextMonth
  | selectDate (day : Nat)
  | selectHour (hour : Nat)

namespace View

/-- What a calendar becomes, if there is what was asked for. -/
def orStay (v : View) : Except CalendarFault View → View
  | .ok changed => changed
  | .error _ => v

/-- The calendar after a move. -/
def moved (v : View) : Move → View
  | .showMonth year month => v.orStay (v.showMonth year month)
  | .previousMonth => v.previousMonth
  | .nextMonth => v.nextMonth
  | .selectDate day => v.orStay ((v.selectDate day).map Prod.fst)
  | .selectHour hour => v.orStay (v.selectHour hour)

/-- The calendar after some moves. -/
def movedAll (v : View) (moves : List Move) : View := moves.foldl moved v

/-- A calendar that was opened at some instant, for clocks at an offset, and moved. -/
def Reachable (offset : Offset) (v : View) : Prop :=
  ∃ start moves, v = (opened start offset).movedAll moves

/-- What holds of every calendar that is opened, and is kept by every move, holds wherever a user gets. -/
theorem Reachable.induction {P : View → Prop} {offset : Offset}
    (start : ∀ now, P (opened now offset)) (step : ∀ v m, P v → P (v.moved m)) {v : View}
    (h : v.Reachable offset) : P v := by
  obtain ⟨now, moves, rfl⟩ := h
  have hstart := start now
  revert hstart
  generalize opened now offset = v
  intro hstart
  induction moves generalizing v with
  | nil => exact hstart
  | cons m moves ih => exact ih (v.moved m) (step v m hstart)

end View

/-! ## Days of a month -/

/-- A day of a month is found exactly if it is one of the dates. -/
theorem dayOfMonth_eq_ok_iff {year : Int} {month day : Nat} {d : Date} :
    dayOfMonth year month day = .ok d ↔ d.year = year ∧ d.month = month ∧ d.day = day := by
  constructor
  · intro h
    unfold dayOfMonth at h
    split at h
    · next found hfound =>
      cases h
      unfold Date.of? at hfound
      split at hfound
      · cases hfound
        exact ⟨rfl, rfl, rfl⟩
      · cases hfound
    · cases h
  · rintro ⟨rfl, rfl, rfl⟩
    unfold dayOfMonth
    rw [d.of?_parts]

/-- The first of a month is a day of the month. -/
theorem firstOfMonth_eq_ok_iff {year : Int} {month : Nat} {d : Date} :
    firstOfMonth year month = .ok d ↔ d.year = year ∧ d.month = month ∧ d.day = 1 := by
  rw [← dayOfMonth_eq_ok_iff]
  unfold firstOfMonth dayOfMonth
  cases Date.of? year month 1 <;> simp

/-- A month that has a date has a first day. -/
theorem firstOfMonth_of_date (d : Date) : ∃ first, firstOfMonth d.year d.month = .ok first := by
  have hfirst : 1 ≤ (1 : Nat) ∧ 1 ≤ monthLength d.year d.month :=
    ⟨Nat.le_refl 1, Nat.le_trans d.exists_day.1 d.exists_day.2⟩
  exact ⟨⟨d.year, d.month, 1, d.inRange, hfirst⟩, firstOfMonth_eq_ok_iff.mpr ⟨rfl, rfl, rfl⟩⟩

namespace View

/-! ## Where a move leads -/

/-- The answer to a move: the calendar as it becomes, or why there is not what was asked for. -/
def asked (v : View) : Move → Except CalendarFault View
  | .showMonth year month => v.showMonth year month
  | .previousMonth => .ok v.previousMonth
  | .nextMonth => .ok v.nextMonth
  | .selectDate day => (v.selectDate day).map Prod.fst
  | .selectHour hour => v.selectHour hour

/-- Where a move leads: to the month of a date, to the month before or after, to a date of the month that
is shown, to an hour of a day. -/
inductive Leads (v : View) : Move → View → Prop
  | showMonth (d : Date) : Leads v (.showMonth d.year d.month) { v with year := d.year, month := d.month }
  | previousMonth : Leads v .previousMonth v.previousMonth
  | nextMonth : Leads v .nextMonth v.nextMonth
  | selectDate (d : Date) (hyear : d.year = v.year) (hmonth : d.month = v.month) :
      Leads v (.selectDate d.day) { v with selectedDate := some d }
  | selectHour {hour : Nat} (h : hour ≤ 23) : Leads v (.selectHour hour) { v with hour := hour }

/-- **A move is granted exactly where it leads somewhere.** -/
theorem asked_eq_ok_iff {v w : View} {m : Move} : v.asked m = .ok w ↔ Leads v m w := by
  constructor
  · intro h
    cases m with
    | showMonth year month =>
      have hshown : v.showMonth year month = .ok w := h
      unfold showMonth at hshown
      cases hfirst : firstOfMonth year month with
      | error fault =>
        rw [hfirst] at hshown
        cases hshown
      | ok d =>
        rw [hfirst] at hshown
        cases hshown
        obtain ⟨rfl, rfl, _⟩ := firstOfMonth_eq_ok_iff.mp hfirst
        exact .showMonth d
    | previousMonth =>
      cases h
      exact .previousMonth
    | nextMonth =>
      cases h
      exact .nextMonth
    | selectDate day =>
      have hselected : (v.selectDate day).map Prod.fst = .ok w := h
      unfold selectDate at hselected
      cases hday : dayOfMonth v.year v.month day with
      | error fault =>
        rw [hday] at hselected
        cases hselected
      | ok d =>
        rw [hday] at hselected
        cases hselected
        obtain ⟨hyear, hmonth, rfl⟩ := dayOfMonth_eq_ok_iff.mp hday
        exact .selectDate d hyear hmonth
    | selectHour hour =>
      have hselected : v.selectHour hour = .ok w := h
      unfold selectHour checkHour at hselected
      by_cases hhour : hour ≤ 23
      · rw [if_pos hhour] at hselected
        cases hselected
        exact .selectHour hhour
      · rw [if_neg hhour] at hselected
        cases hselected
  · intro h
    cases h with
    | showMonth d =>
      obtain ⟨first, hfirst⟩ := firstOfMonth_of_date d
      show v.showMonth d.year d.month = _
      unfold showMonth
      rw [hfirst]
      rfl
    | previousMonth => rfl
    | nextMonth => rfl
    | selectDate d hyear hmonth =>
      show (v.selectDate d.day).map Prod.fst = _
      unfold selectDate
      rw [dayOfMonth_eq_ok_iff.mpr ⟨hyear, hmonth, rfl⟩]
      rfl
    | selectHour hhour =>
      show v.selectHour _ = _
      unfold selectHour checkHour
      rw [if_pos hhour]
      rfl

/-- **A move leads somewhere, or it is answered with a fault and changes nothing.** -/
theorem moved_cases (v : View) (m : Move) :
    (v.asked m = .ok (v.moved m) ∧ Leads v m (v.moved m)) ∨
    (∃ fault, v.asked m = .error fault) ∧ v.moved m = v := by
  have hmoved : v.moved m = v.orStay (v.asked m) := by cases m <;> rfl
  rw [hmoved]
  cases hasked : v.asked m with
  | ok w => exact .inl ⟨rfl, asked_eq_ok_iff.mp hasked⟩
  | error fault => exact .inr ⟨⟨fault, rfl⟩, rfl⟩

/-! ## Months and hours -/

/-- A calendar shows one of the twelve months, at an hour of a day. -/
structure Sound (v : View) : Prop where
  month : 1 ≤ v.month ∧ v.month ≤ 12
  hour : v.hour ≤ 23

/-- A local clock shows a month of a year and an hour of a day. -/
theorem sound_opened (now : Instant) (offset : Offset) : (opened now offset).Sound where
  month := by
    obtain ⟨hpos, hlength, _⟩ := civil_spec ((now.seconds + offset.seconds) / daySeconds)
    exact monthLength_pos_iff.mp (Nat.lt_of_lt_of_le hpos hlength)
  hour := by
    show ((now.seconds + offset.seconds) % daySeconds).toNat / 3600 ≤ 23
    unfold daySeconds
    omega

/-- The month before and the month after one of the twelve are two of them. -/
theorem Sound.previousMonth {v : View} (h : v.Sound) : v.previousMonth.Sound where
  month := by
    obtain ⟨hlow, hhigh⟩ := h.month
    show 1 ≤ (preceding v.year v.month).2 ∧ (preceding v.year v.month).2 ≤ 12
    unfold preceding
    split <;> dsimp only <;> omega
  hour := h.hour

theorem Sound.nextMonth {v : View} (h : v.Sound) : v.nextMonth.Sound where
  month := by
    obtain ⟨hlow, hhigh⟩ := h.month
    show 1 ≤ (following v.year v.month).2 ∧ (following v.year v.month).2 ≤ 12
    unfold following
    split <;> dsimp only <;> omega
  hour := h.hour

theorem Sound.moved {v : View} (h : v.Sound) (m : Move) : (v.moved m).Sound := by
  rcases v.moved_cases m with ⟨_, hleads⟩ | ⟨_, hstays⟩
  · generalize v.moved m = w at hleads
    cases hleads with
    | showMonth d => exact ⟨d.month_mem, h.hour⟩
    | previousMonth => exact h.previousMonth
    | nextMonth => exact h.nextMonth
    | selectDate d _ _ => exact ⟨h.month, h.hour⟩
    | selectHour hhour => exact ⟨h.month, hhour⟩
  · rw [hstays]
    exact h

/-- **Wherever a user gets, the calendar shows a month of a year and an hour of a day.** -/
theorem Reachable.sound {offset : Offset} {v : View} (h : v.Reachable offset) : v.Sound :=
  h.induction (fun now => sound_opened now offset) fun _ m hv => hv.moved m

theorem Reachable.hour_le {offset : Offset} {v : View} (h : v.Reachable offset) : v.hour ≤ 23 :=
  h.sound.hour

end View

end Shoreline.Calendar
