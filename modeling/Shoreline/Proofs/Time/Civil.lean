import Shoreline.Time.Instant

/-!
# `Shoreline.Proofs.Time.Civil` — a day number is the number of its date

`civil` finds year, month and day of a day number by an estimate of the year and a search for the month.
What it finds is a day that exists, and the number of that day is the number one began with. So every
day number in the range of the dates has a date. Days are numbered in the order of their dates, so no two
days have one number, and `civil` finds the day that was numbered.

## Contents
- `daysBeforeYear_mono`, `daysBeforeMonth_succ`, `monthLength_le`, `daysBeforeMonth_end`.
- `monthOf_spec`, `civil_spec`, `civil_year_mem`.
- `year_le_of_dayNumber_le`, `month_le_of_daysBefore_le`; `civil_dayNumber`.
- `Date.ofCivil`: the date of a day number in range.
-/

namespace Shoreline.Time

/-! ## Years and months -/

theorem daysBeforeYear_mono {a b : Int} (h : a ≤ b) : daysBeforeYear a ≤ daysBeforeYear b := by
  unfold daysBeforeYear
  omega

theorem daysBeforeMonth_succ (year : Int) {m : Nat} (h : 1 ≤ m) :
    daysBeforeMonth year (m + 1) = daysBeforeMonth year m + monthLength year m := by
  obtain ⟨k, rfl⟩ : ∃ k, m = k + 1 := ⟨m - 1, by omega⟩
  rw [daysBeforeMonth]

theorem monthLength_le (year : Int) (month : Nat) : monthLength year month ≤ 31 := by
  unfold monthLength
  split <;> try split
  all_goals decide

/-- The twelve months are the whole year. -/
theorem daysBeforeMonth_end (year : Int) :
    daysBeforeMonth year 13 = if isLeap year then 366 else 365 := by
  simp only [daysBeforeMonth, monthLength]
  split <;> rfl

/-- **The search finds the month that holds the day**: it begins before the day, and the next one, if
there is one among those searched, does not. -/
theorem monthOf_spec (year : Int) {n : Nat} (h : 0 < n) {m : Nat} (hm : 0 < m) :
    1 ≤ monthOf year n m ∧ monthOf year n m ≤ m ∧ daysBeforeMonth year (monthOf year n m) < n ∧
      (monthOf year n m = m ∨ n ≤ daysBeforeMonth year (monthOf year n m + 1)) := by
  induction m with
  | zero => exact absurd hm (Nat.lt_irrefl 0)
  | succ m ih =>
    rw [monthOf]
    split
    · next hbegun => exact ⟨hm, Nat.le_refl _, hbegun, .inl rfl⟩
    · next hnot =>
      -- the first month begins before every day, so the search has not come to its end
      have hpos : 0 < m := by
        rcases Nat.eq_zero_or_pos m with rfl | hpos
        · exact absurd h hnot
        · exact hpos
      obtain ⟨hleast, hgreatest, hbefore, hlast⟩ := ih hpos
      refine ⟨hleast, Nat.le_succ_of_le hgreatest, hbefore, .inr ?_⟩
      rcases hlast with heq | hnext
      · rw [heq]
        exact Nat.le_of_not_lt hnot
      · exact hnext

/-! ## Day numbers -/

/-- **The date of a day number exists, and its number is that number.** -/
theorem civil_spec (number : Int) :
    1 ≤ (civil number).day ∧ (civil number).day ≤ monthLength (civil number).year (civil number).month ∧
      dayNumber (civil number).year (civil number).month (civil number).day = number := by
  obtain ⟨hafter, hwithin⟩ := yearOf_spec (number - dayZero)
  unfold civil dayNumber
  dsimp only
  generalize yearOf (number - dayZero) = year at hafter hwithin ⊢
  obtain ⟨n, hn⟩ : ∃ n : Nat, (n : Int) = number - dayZero - daysBeforeYear year :=
    ⟨(number - dayZero - daysBeforeYear year).toNat, Int.toNat_of_nonneg (by omega)⟩
  have hday : (number - dayZero - daysBeforeYear year).toNat = n := by omega
  rw [hday]
  have hpos : 0 < n := by omega
  have hyear : n ≤ daysBeforeMonth year 13 := by
    rw [daysBeforeYear_succ] at hwithin
    rw [daysBeforeMonth_end]
    split at hwithin
    · next hleap =>
      rw [if_pos hleap]
      omega
    · next hleap =>
      rw [if_neg hleap]
      omega
  obtain ⟨hleast, _, hbefore, hlast⟩ := monthOf_spec year hpos (m := 12) (by decide)
  have hmonth : n ≤ daysBeforeMonth year (monthOf year n 12 + 1) := by
    rcases hlast with heq | hnext
    · rw [heq]
      exact hyear
    · exact hnext
  rw [daysBeforeMonth_succ year hleast] at hmonth
  refine ⟨?_, ?_, ?_⟩
  · omega
  · omega
  · omega

/-- A day number between those of the first and the last date lies in a year of the dates. -/
theorem civil_year_mem {number : Int} (hleast : dayNumber minYear 1 1 ≤ number)
    (hgreatest : number ≤ dayNumber maxYear 12 31) :
    minYear ≤ (civil number).year ∧ (civil number).year ≤ maxYear := by
  obtain ⟨hafter, hwithin⟩ := yearOf_spec (number - dayZero)
  have hyear : (civil number).year = yearOf (number - dayZero) := rfl
  rw [hyear]
  generalize yearOf (number - dayZero) = year at hafter hwithin ⊢
  have hfirst : dayNumber minYear 1 1 = dayZero + daysBeforeYear minYear + 1 := rfl
  have hend : dayNumber maxYear 12 31 = dayZero + daysBeforeYear (maxYear + 1) := by decide
  constructor
  · by_cases h : minYear ≤ year
    · exact h
    · have hmono := daysBeforeYear_mono (a := year + 1) (b := minYear) (by omega)
      omega
  · by_cases h : year ≤ maxYear
    · exact h
    · have hmono := daysBeforeYear_mono (a := maxYear + 1) (b := year) (by omega)
      omega

/-! ## The order of days -/

theorem daysBeforeMonth_mono (year : Int) {m k : Nat} (h : 1 ≤ m) (hmk : m ≤ k) :
    daysBeforeMonth year m ≤ daysBeforeMonth year k := by
  induction hmk with
  | refl => exact Nat.le_refl _
  | step hle ih =>
    rw [daysBeforeMonth_succ year (Nat.le_trans h hle)]
    exact Nat.le_add_right_of_le ih

section Existing

variable {year year' : Int} {month month' day day' : Nat}

/-- A day that exists lies in its year. -/
theorem daysBeforeMonth_add_le (h : 1 ≤ day ∧ day ≤ monthLength year month) :
    daysBeforeYear year + (daysBeforeMonth year month + day : Nat) ≤ daysBeforeYear (year + 1) := by
  obtain ⟨hleast, hgreatest⟩ := monthLength_pos_iff.mp (Nat.lt_of_lt_of_le h.1 h.2)
  have hnext := daysBeforeMonth_succ year hleast
  have hend := daysBeforeMonth_mono year (m := month + 1) (k := 13) (by omega) (by omega)
  rw [daysBeforeMonth_end] at hend
  rw [daysBeforeYear_succ]
  split at hend
  · next hleap =>
    rw [if_pos hleap]
    omega
  · next hleap =>
    rw [if_neg hleap]
    omega

/-- A day that is not later is of no later year. -/
theorem year_le_of_dayNumber_le (h : 1 ≤ day ∧ day ≤ monthLength year month)
    (h' : 1 ≤ day' ∧ day' ≤ monthLength year' month')
    (hle : dayNumber year month day ≤ dayNumber year' month' day') : year ≤ year' := by
  refine Int.not_lt.mp fun hlater => ?_
  have hwithin := daysBeforeMonth_add_le h'
  have hmono := daysBeforeYear_mono (a := year' + 1) (b := year) (by omega)
  unfold dayNumber at hle
  omega

/-- In one year, a day that is not later is of no later month. -/
theorem month_le_of_daysBefore_le (h : 1 ≤ day) (h' : 1 ≤ day' ∧ day' ≤ monthLength year month')
    (hle : daysBeforeMonth year month + day ≤ daysBeforeMonth year month' + day') : month ≤ month' := by
  refine Nat.not_lt.mp fun hlater => ?_
  obtain ⟨hleast, -⟩ := monthLength_pos_iff.mp (Nat.lt_of_lt_of_le h'.1 h'.2)
  have hnext := daysBeforeMonth_succ year hleast
  have hmono := daysBeforeMonth_mono year (m := month' + 1) (k := month) (by omega) (by omega)
  omega

/-- **The date of the number of a day is that day.** -/
theorem civil_dayNumber (h : 1 ≤ day ∧ day ≤ monthLength year month) :
    civil (dayNumber year month day) = ⟨year, month, day⟩ := by
  obtain ⟨hpos, hlength, hnumber⟩ := civil_spec (dayNumber year month day)
  generalize civil (dayNumber year month day) = found at hpos hlength hnumber ⊢
  obtain ⟨y, m, d⟩ := found
  dsimp only at hpos hlength hnumber
  have hday : 1 ≤ d ∧ d ≤ monthLength y m := ⟨hpos, hlength⟩
  have hyear : y = year :=
    Int.le_antisymm (year_le_of_dayNumber_le hday h (Int.le_of_eq hnumber))
      (year_le_of_dayNumber_le h hday (Int.le_of_eq hnumber.symm))
  subst hyear
  have hsame : daysBeforeMonth y m + d = daysBeforeMonth y month + day := by
    unfold dayNumber at hnumber
    omega
  have hmonth : m = month :=
    Nat.le_antisymm (month_le_of_daysBefore_le hpos h (Nat.le_of_eq hsame))
      (month_le_of_daysBefore_le h.1 hday (Nat.le_of_eq hsame.symm))
  subst hmonth
  have hlast : d = day := Nat.add_left_cancel hsame
  rw [hlast]

end Existing

/-! ## Dates -/

/-- **Every day number in range is the number of a date**, the one that `civil` finds. -/
theorem Date.of?_civil {number : Int} (hleast : dayNumber minYear 1 1 ≤ number)
    (hgreatest : number ≤ dayNumber maxYear 12 31) :
    ∃ d, Date.of? (civil number).year (civil number).month (civil number).day = some d ∧
      d.number = number ∧ d.year = (civil number).year ∧ d.month = (civil number).month ∧
      d.day = (civil number).day := by
  obtain ⟨hpos, hlength, hnumber⟩ := civil_spec number
  have hyear := civil_year_mem hleast hgreatest
  unfold Date.of?
  rw [dif_pos ⟨hyear, hpos, hlength⟩]
  exact ⟨_, rfl, hnumber, rfl, rfl, rfl⟩

/-- The parts of a date make that date. -/
theorem Date.of?_parts (d : Date) : Date.of? d.year d.month d.day = some d := by
  unfold Date.of?
  rw [dif_pos ⟨d.inRange, d.exists_day⟩]

end Shoreline.Time
