import Shoreline.Proofs.Calendar.Agreement

/-!
# `Shoreline.Proofs.Calendar.MonthLength` — how long a month is

How long a month is, is found without the leap rule: it is the day of the month of the day before the first of
the following month, in December that of the next year. To see that this is the length that the calendar has,
days are counted: the day before is the one with the number before (`Date.pred?_eq_some_iff`), and the first of
the following month is just as many days after the first of a month as the month is long
(`dayNumber_following`). Since the first of the following month must be a date too, the last month of all has
days and no length.

## Contents
- `isLeap_iff`; `Date.number_injective`, `Date.pred?_eq_some_iff`.
- `Starts`: the months that begin on a date; `starts_iff`, `starts_iff_firstOfMonth`, `dayNumber_following`.
- `HasLength`: the months whose length is found; `hasLength_iff`, `daysInMonth_of_hasLength`,
  `daysInMonth_of_not_hasLength`.
- `month_length_is_gregorian`, with two Februaries and the last month of all.
-/

namespace Shoreline

open Time

namespace Time

/-! ## Leap years -/

/-- Every fourth year is a leap year, except the hundreds that are not four-hundreds. -/
theorem isLeap_iff (year : Int) : isLeap year = true ↔ (4 ∣ year ∧ ¬ 100 ∣ year) ∨ 400 ∣ year := by
  unfold isLeap
  simp only [Bool.and_eq_true, Bool.or_eq_true, beq_iff_eq, bne_iff_ne, ne_eq]
  omega

/-! ## The day before -/

namespace Date

/-- **A date is known by its number.** -/
theorem number_injective {d e : Date} (h : d.number = e.number) : d = e := by
  have hd := civil_dayNumber d.exists_day
  have he := civil_dayNumber e.exists_day
  have hsame : dayNumber d.year d.month d.day = dayNumber e.year e.month e.day := h
  rw [hsame, he, Civil.mk.injEq] at hd
  obtain ⟨hyear, hmonth, hday⟩ := hd
  exact Calendar.date_ext hyear.symm hmonth.symm hday.symm

/-- What is found for year, month and day has just those. -/
theorem of?_eq_some_iff {year : Int} {month day : Nat} {d : Date} :
    of? year month day = some d ↔ d.year = year ∧ d.month = month ∧ d.day = day := by
  rw [← Calendar.dayOfMonth_eq_ok_iff]
  unfold Calendar.dayOfMonth
  cases of? year month day <;> simp

/-- The day before has the number before. -/
theorem number_of_pred? {d e : Date} (h : d.pred? = some e) : e.number + 1 = d.number := by
  obtain ⟨hpos, -⟩ := d.exists_day
  obtain ⟨hfirst, -⟩ := d.month_mem
  unfold pred? at h
  unfold number dayNumber
  split at h
  · obtain ⟨hyear, hmonth, hday⟩ := of?_eq_some_iff.mp h
    rw [hyear, hmonth, hday]
    omega
  · split at h
    · next hlater =>
      -- the last day of the month before
      obtain ⟨hyear, hmonth, hday⟩ := of?_eq_some_iff.mp h
      have hnext := daysBeforeMonth_succ d.year (m := d.month - 1) (by omega)
      rw [Nat.sub_add_cancel hfirst] at hnext
      rw [hyear, hmonth, hday]
      omega
    · -- the last day of the year before
      obtain ⟨hyear, hmonth, hday⟩ := of?_eq_some_iff.mp h
      have hjanuary : d.month = 1 := by omega
      have hwhole := daysBeforeYear_succ (d.year - 1)
      have hend := daysBeforeMonth_end (d.year - 1)
      have hdecember : daysBeforeMonth (d.year - 1) 13 = daysBeforeMonth (d.year - 1) 12 + 31 :=
        daysBeforeMonth_succ (d.year - 1) (by decide)
      have hzero : daysBeforeMonth d.year 1 = 0 := rfl
      rw [Int.sub_add_cancel] at hwhole
      rw [hyear, hmonth, hday, hjanuary, hzero]
      split at hwhole <;> rename_i hleap
      · rw [if_pos hleap] at hend
        omega
      · rw [if_neg hleap] at hend
        omega

/-- The numbers of dates lie between those of the first and of the last date. -/
theorem number_mem (d : Date) : dayNumber minYear 1 1 ≤ d.number ∧ d.number ≤ dayNumber maxYear 12 31 := by
  obtain ⟨hlow, hhigh⟩ := d.inRange
  have hpos := d.exists_day.1
  have hwithin := daysBeforeMonth_add_le d.exists_day
  have hafter := daysBeforeYear_mono hlow
  have hbefore := daysBeforeYear_mono (Int.add_le_add_right hhigh 1)
  have hfirst : dayNumber minYear 1 1 = dayZero + daysBeforeYear minYear + 1 := rfl
  have hlast : dayNumber maxYear 12 31 = dayZero + daysBeforeYear (maxYear + 1) := by decide
  unfold number
  rw [hfirst, hlast]
  unfold dayNumber
  omega

/-- Only the first date of all has no day before it. -/
theorem number_of_pred?_eq_none {d : Date} (h : d.pred? = none) : d.number = dayNumber minYear 1 1 := by
  obtain ⟨hlow, hhigh⟩ := d.inRange
  obtain ⟨hpos, hlength⟩ := d.exists_day
  obtain ⟨hfirst, htwelfth⟩ := d.month_mem
  unfold pred? at h
  split at h
  · have hday := (of?_isSome d.year d.month (d.day - 1)).mpr ⟨d.inRange, by omega, by omega⟩
    rw [h] at hday
    cases hday
  · split at h
    · have hbefore : 1 ≤ monthLength d.year (d.month - 1) := monthLength_pos_iff.mpr (by omega)
      have hday := (of?_isSome _ _ _).mpr ⟨d.inRange, hbefore, Nat.le_refl _⟩
      rw [h] at hday
      cases hday
    · have hyear : d.year = minYear := by
        refine Int.le_antisymm (Int.not_lt.mp fun hlater => ?_) hlow
        have hday := (of?_isSome (d.year - 1) 12 31).mpr ⟨⟨by omega, by omega⟩, by decide, Nat.le_refl 31⟩
        rw [h] at hday
        cases hday
      have hmonth : d.month = 1 := by omega
      have hday : d.day = 1 := by omega
      unfold number
      rw [hyear, hmonth, hday]

/-- **The day before is the date whose number is the one before.** -/
theorem pred?_eq_some_iff {d e : Date} : d.pred? = some e ↔ e.number + 1 = d.number := by
  refine ⟨number_of_pred?, fun h => ?_⟩
  cases hpred : d.pred? with
  | none =>
    have hleast := e.number_mem.1
    rw [number_of_pred?_eq_none hpred] at h
    omega
  | some found =>
    have hfound := number_of_pred? hpred
    rw [number_injective (d := found) (e := e) (by omega)]

end Date

end Time

namespace Calendar

/-! ## Months that begin on a date -/

/-- The month is one of the twelve, and its first day is none before the first date or after the last. -/
def Starts (year : Int) (month : Nat) : Prop :=
  (1 ≤ month ∧ month ≤ 12) ∧
    dayNumber minYear 1 1 ≤ dayNumber year month 1 ∧ dayNumber year month 1 ≤ dayNumber maxYear 12 31

instance (year : Int) (month : Nat) : Decidable (Starts year month) :=
  inferInstanceAs (Decidable (_ ∧ _ ∧ _))

variable {year : Int} {month : Nat}

/-- Those are the months of the years of the dates. -/
theorem starts_iff : Starts year month ↔ (1 ≤ month ∧ month ≤ 12) ∧ minYear ≤ year ∧ year ≤ maxYear := by
  refine and_congr_right fun hmonth => ?_
  have hfirst : 1 ≤ 1 ∧ 1 ≤ monthLength year month := ⟨Nat.le_refl 1, monthLength_pos_iff.mpr hmonth⟩
  constructor
  · rintro ⟨hafter, hbefore⟩
    exact ⟨year_le_of_dayNumber_le (by decide) hfirst hafter,
      year_le_of_dayNumber_le hfirst (by decide) hbefore⟩
  · intro hyear
    exact Date.number_mem ⟨year, month, 1, hyear, hfirst⟩

/-- A month begins on a date exactly if there is its first date. -/
theorem starts_iff_firstOfMonth : Starts year month ↔ ∃ first, firstOfMonth year month = .ok first := by
  rw [starts_iff]
  constructor
  · rintro ⟨hmonth, hyear⟩
    exact ⟨⟨year, month, 1, hyear, Nat.le_refl 1, monthLength_pos_iff.mpr hmonth⟩,
      firstOfMonth_eq_ok_iff.mpr ⟨rfl, rfl, rfl⟩⟩
  · rintro ⟨first, hfirst⟩
    obtain ⟨rfl, rfl, -⟩ := firstOfMonth_eq_ok_iff.mp hfirst
    exact ⟨first.month_mem, first.inRange⟩

/-- **The first of the following month is as many days later as the month is long.** -/
theorem dayNumber_following (h : 1 ≤ month ∧ month ≤ 12) :
    dayNumber (following year month).1 (following year month).2 1 =
      dayNumber year month 1 + monthLength year month := by
  unfold following
  split
  · next htwelfth =>
    subst htwelfth
    have hend := daysBeforeMonth_end year
    have hdecember : daysBeforeMonth year 13 = daysBeforeMonth year 12 + 31 :=
      daysBeforeMonth_succ year (by decide)
    have hlength : monthLength year 12 = 31 := rfl
    have hzero : daysBeforeMonth (year + 1) 1 = 0 := rfl
    unfold dayNumber
    rw [daysBeforeYear_succ, hlength, hzero]
    split <;> rename_i hleap
    · rw [if_pos hleap] at hend
      omega
    · rw [if_neg hleap] at hend
      omega
  · have hnext := daysBeforeMonth_succ year h.1
    unfold dayNumber
    dsimp only
    rw [hnext]
    omega

/-! ## The length of a month -/

/-- Both the month and the following one begin on a date. -/
def HasLength (year : Int) (month : Nat) : Prop :=
  Starts year month ∧ Starts (following year month).1 (following year month).2

instance (year : Int) (month : Nat) : Decidable (HasLength year month) :=
  inferInstanceAs (Decidable (_ ∧ _))

/-- Those are all months that begin on a date but the last. -/
theorem hasLength_iff : HasLength year month ↔ Starts year month ∧ ¬ IsLast year month := by
  refine and_congr_right fun hstarts => ?_
  obtain ⟨first, hfirst⟩ := starts_iff_firstOfMonth.mp hstarts
  obtain ⟨rfl, rfl, -⟩ := firstOfMonth_eq_ok_iff.mp hfirst
  rw [starts_iff_firstOfMonth]
  rcases firstOfMonth_following first with ⟨hlast, fault, hnext⟩ | ⟨hlast, hnext⟩
  · refine iff_of_false ?_ (not_not_intro hlast)
    rintro ⟨next, hok⟩
    cases hnext.symm.trans hok
  · exact iff_of_true hnext hlast

theorem daysInMonth_of_hasLength (h : HasLength year month) :
    daysInMonth year month = .ok (monthLength year month) := by
  obtain ⟨hstarts, hlast⟩ := hasLength_iff.mp h
  obtain ⟨first, hfirst⟩ := starts_iff_firstOfMonth.mp hstarts
  obtain ⟨rfl, rfl, -⟩ := firstOfMonth_eq_ok_iff.mp hfirst
  exact daysInMonth_of_date hlast

/-- A month without a length is named in the fault, but for the last of all: there it is the January that
does not follow. -/
theorem daysInMonth_of_not_hasLength (h : ¬ HasLength year month) :
    daysInMonth year month = .error (.month (if IsLast year month then 1 else month)) := by
  rw [hasLength_iff] at h
  by_cases hlast : IsLast year month
  · rw [if_pos hlast, hlast.1, hlast.2]
    rfl
  · have hnone : firstOfMonth year month = .error (.month month) := by
      cases hfirst : firstOfMonth year month with
      | ok first => exact absurd ⟨starts_iff_firstOfMonth.mpr ⟨first, hfirst⟩, hlast⟩ h
      | error fault =>
        unfold firstOfMonth at hfirst
        split at hfirst
        · cases hfirst
        · exact hfirst.symm
    unfold daysInMonth
    rw [hnone, if_neg hlast]
    rfl

/-- **How long a month is.** If a month and the following one begin on a date, then the month has thirty-one
days, or thirty, or as February twenty-nine in the years that are divisible by four and not by a hundred, or
by four hundred, and twenty-eight in the others, whatever the sign of the year. Its days are those for which
there is a date, and the following month begins as many days later. Every other month is a fault. -/
theorem month_length_is_gregorian (year : Int) (month : Nat) :
    (HasLength year month → ∃ days, daysInMonth year month = .ok days ∧
      (month ∈ [1, 3, 5, 7, 8, 10, 12] → days = 31) ∧
      (month ∈ [4, 6, 9, 11] → days = 30) ∧
      (month = 2 → days = if (4 ∣ year ∧ ¬ 100 ∣ year) ∨ 400 ∣ year then 29 else 28) ∧
      (∀ day, (∃ d, dayOfMonth year month day = .ok d) ↔ 1 ≤ day ∧ day ≤ days) ∧
      dayNumber (following year month).1 (following year month).2 1 = dayNumber year month 1 + days) ∧
    (¬ HasLength year month →
      daysInMonth year month = .error (.month (if IsLast year month then 1 else month))) := by
  refine ⟨fun h => ?_, daysInMonth_of_not_hasLength⟩
  obtain ⟨hmonth, hyear⟩ := starts_iff.mp h.1
  refine ⟨monthLength year month, daysInMonth_of_hasLength h, ?_, ?_, ?_, ?_, dayNumber_following hmonth⟩
  · simp only [List.mem_cons, List.not_mem_nil, or_false]
    rintro (rfl | rfl | rfl | rfl | rfl | rfl | rfl) <;> rfl
  · simp only [List.mem_cons, List.not_mem_nil, or_false]
    rintro (rfl | rfl | rfl | rfl) <;> rfl
  · rintro rfl
    simp only [monthLength, isLeap_iff]
  · intro day
    constructor
    · rintro ⟨d, hd⟩
      obtain ⟨rfl, rfl, rfl⟩ := dayOfMonth_eq_ok_iff.mp hd
      exact d.exists_day
    · intro hday
      exact ⟨⟨year, month, day, hyear, hday⟩, dayOfMonth_eq_ok_iff.mpr ⟨rfl, rfl, rfl⟩⟩

/-- The February of a leap year before year zero, that of a hundred which is no leap year, and the last month
of all. -/
theorem month_length_is_gregorian_february :
    daysInMonth (-4) 2 = .ok 29 ∧ daysInMonth 1900 2 = .ok 28 ∧
    daysInMonth maxYear 12 = .error (.month 1) := by
  refine ⟨?_, ?_, ?_⟩
  · obtain ⟨days, hdays, -, -, hfebruary, -⟩ := (month_length_is_gregorian (-4) 2).1 (by decide)
    rw [hdays, hfebruary rfl]
    decide
  · obtain ⟨days, hdays, -, -, hfebruary, -⟩ := (month_length_is_gregorian 1900 2).1 (by decide)
    rw [hdays, hfebruary rfl]
    decide
  · exact (month_length_is_gregorian maxYear 12).2 (by decide)

end Calendar

end Shoreline
