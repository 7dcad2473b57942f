import Shoreline.Proofs.Time.ReadBack

/-!
# `Shoreline.Proofs.Time.Strict` — a strict reader of instants

The reader of instants forgives much, so that it reads a text says little about the text. The reader of this
module takes RFC 3339 at its word, for times in UTC with milliseconds: each number has its exact number of
digits, the fraction has three, the text ends with `Z`, and years outside 0 to 9999, which the standard does
not know, carry a sign. It knows no first and no last year. What is written with milliseconds is read by it,
and loses only what is shorter than a millisecond.

## Contents
- `strictNumber`, `strictMark`, `strictYear`, `strictInstant`, `Instant.strict?`: the reader.
- `strictNumber_padded`, `strictYear_write`, `strictInstant_write`; `Instant.strict?_writeMillis`.
- `Instant.localParts_ofLocal?`: clocks show the local time that an instant was made of.
-/

namespace Shoreline.Time

open Text Decimal

/-! ## The reader -/

/-- A number of just so many digits, between two bounds. -/
def strictNumber (width least greatest : Nat) : Scan Nat := fun s =>
  let digits := s.take width
  if digits.length = width ∧ digits.all Char.isDigit ∧ least ≤ value digits ∧ value digits ≤ greatest then
    some (value digits, s.drop width)
  else none

/-- All digits up to the next other character, four at least, for a number from `least` up. -/
def strictYearDigits (least : Nat) : Scan Nat := fun s =>
  let digits := s.takeWhile Char.isDigit
  if 4 ≤ digits.length ∧ least ≤ value digits then some (value digits, s.drop digits.length) else none

/-- Just this character. -/
def strictMark (c : Char) : Scan Unit := fun s =>
  match s with
  | d :: rest => if d = c then some ((), rest) else none
  | [] => none

/-- A year: a minus sign before year zero, a plus sign behind the year 9999, and four digits without a sign
between them. -/
def strictYear : Scan Int := fun s =>
  match s with
  | '-' :: r => (strictYearDigits 1 r).map fun n => (-(n.1 : Int), n.2)
  | '+' :: r => (strictYearDigits 10000 r).map fun n => ((n.1 : Int), n.2)
  | r => (strictNumber 4 0 9999 r).map fun n => ((n.1 : Int), n.2)

/-- Date and time in UTC with milliseconds. The day must exist. -/
def strictInstant : Scan Instant := do
  let year ← strictYear
  strictMark '-'
  let month ← strictNumber 2 1 12
  strictMark '-'
  let day ← strictNumber 2 1 (monthLength year month)
  strictMark 'T'
  let hour ← strictNumber 2 0 23
  strictMark ':'
  let minute ← strictNumber 2 0 59
  strictMark ':'
  let second ← strictNumber 2 0 59
  strictMark '.'
  let millis ← strictNumber 3 0 999
  strictMark 'Z'
  pure ⟨dayNumber year month day * daySeconds + (hour * 3600 + minute * 60 + second : Nat),
    millis * 1000000⟩

/-- The instant of a text with nothing behind it. -/
def Instant.strict? (s : String) : Option Instant :=
  match strictInstant s.toList with
  | some (t, []) => some t
  | _ => none

/-! ## What is written is read -/

/-- **A padded number is read back**, whatever follows it. -/
theorem strictNumber_padded {width n least greatest : Nat} (hwidth : 0 < width) (h : n < 10 ^ width)
    (hbounds : least ≤ n ∧ n ≤ greatest) (rest : List Char) :
    strictNumber width least greatest (padded width n ++ rest) = some (n, rest) := by
  have hlength := length_padded hwidth h
  have hdigits : (padded width n).all Char.isDigit = true :=
    List.all_eq_true.mpr fun _ hc => isDigit_of_mem_padded hc
  simp [strictNumber, List.take_left' hlength, List.drop_left' hlength, hlength, hdigits, value_padded,
    hbounds]

theorem strictMark_self (c : Char) (rest : List Char) : strictMark c (c :: rest) = some ((), rest) := by
  simp [strictMark]

/-- The digits of a year with a sign are read back, if no digit follows them. -/
theorem strictYearDigits_padded {n least : Nat} (h : least ≤ n) {rest : List Char}
    (hrest : ∀ c ∈ rest.head?, c.isDigit = false) :
    strictYearDigits least (padded 4 n ++ rest) = some (n, rest) := by
  have htaken : (padded 4 n ++ rest).takeWhile Char.isDigit = padded 4 n := by
    rw [List.takeWhile_append_of_pos fun _ hc => isDigit_of_mem_padded hc]
    cases rest with
    | nil => simp
    | cons c rest => simp [hrest c rfl]
  have hlong : 4 ≤ (padded 4 n).length := by
    unfold padded
    rw [List.length_append, List.length_replicate]
    omega
  simp [strictYearDigits, htaken, hlong, value_padded, h]

/-- **Every year is read back.** -/
theorem strictYear_write (year : Int) {rest : List Char} (hrest : ∀ c ∈ rest.head?, c.isDigit = false) :
    strictYear (writeYear year ++ rest) = some (year, rest) := by
  unfold writeYear
  by_cases hplain : 0 ≤ year ∧ year ≤ 9999
  · obtain ⟨d, ds, hds, hd⟩ := padded_head 4 year.natAbs
    have hread : strictNumber 4 0 9999 (padded 4 year.natAbs ++ rest) = some (year.natAbs, rest) :=
      strictNumber_padded (by decide) (by omega) (by omega) rest
    have hyear : ((year.natAbs : Nat) : Int) = year := Int.natAbs_of_nonneg hplain.1
    rw [if_pos hplain]
    rw [hds] at hread ⊢
    unfold strictYear
    -- a digit is no sign
    split
    · next r h => exact absurd hd (by rw [(List.cons.inj h).1]; decide)
    · next r h => exact absurd hd (by rw [(List.cons.inj h).1]; decide)
    · rw [hread, Option.map_some, hyear]
  · rw [if_neg hplain]
    by_cases hneg : year < 0
    · have hread : strictYearDigits 1 (padded 4 year.natAbs ++ rest) = some (year.natAbs, rest) :=
        strictYearDigits_padded (by omega) hrest
      have hyear : -((year.natAbs : Nat) : Int) = year := by omega
      rw [if_pos hneg, List.cons_append, strictYear, hread, Option.map_some, hyear]
    · have hread : strictYearDigits 10000 (padded 4 year.natAbs ++ rest) = some (year.natAbs, rest) :=
        strictYearDigits_padded (by omega) hrest
      have hyear : ((year.natAbs : Nat) : Int) = year := by omega
      rw [if_neg hneg, List.cons_append, strictYear, hread, Option.map_some, hyear]

/-- Date and time of day, each number with its digits. -/
theorem strictInstant_write {year : Int} {month day hour minute second millis : Nat}
    (hday : 1 ≤ day ∧ day ≤ monthLength year month) (hhour : hour ≤ 23) (hminute : minute ≤ 59)
    (hsecond : second ≤ 59) (hmillis : millis ≤ 999) :
    strictInstant (writeDay year month day ++ 'T' :: (padded 2 hour ++ ':' :: (padded 2 minute ++
      ':' :: (padded 2 second ++ '.' :: (padded 3 millis ++ ['Z']))))) =
      some (⟨dayNumber year month day * daySeconds + (hour * 3600 + minute * 60 + second : Nat),
        millis * 1000000⟩, []) := by
  have hmonth := monthLength_pos_iff.mp (Nat.lt_of_lt_of_le hday.1 hday.2)
  have hlength := monthLength_le year month
  have hdash : ∀ s : List Char, ∀ c ∈ ('-' :: s).head?, c.isDigit = false := by
    intro s c hc
    obtain rfl := Option.some.inj hc
    decide
  unfold writeDay strictInstant
  rw [List.append_assoc, List.append_assoc, List.cons_append, List.cons_append]
  rw [Scan.bind_of (strictYear_write year (hdash _)), Scan.bind_of (strictMark_self _ _),
    Scan.bind_of (strictNumber_padded (by decide) (by omega) hmonth _), Scan.bind_of (strictMark_self _ _),
    Scan.bind_of (strictNumber_padded (by decide) (by omega) hday _), Scan.bind_of (strictMark_self _ _),
    Scan.bind_of (strictNumber_padded (by decide) (by omega) ⟨Nat.zero_le _, hhour⟩ _),
    Scan.bind_of (strictMark_self _ _),
    Scan.bind_of (strictNumber_padded (by decide) (by omega) ⟨Nat.zero_le _, hminute⟩ _),
    Scan.bind_of (strictMark_self _ _),
    Scan.bind_of (strictNumber_padded (by decide) (by omega) ⟨Nat.zero_le _, hsecond⟩ _),
    Scan.bind_of (strictMark_self _ _),
    Scan.bind_of (strictNumber_padded (by decide) (by omega) ⟨Nat.zero_le _, hmillis⟩ _),
    Scan.bind_of (strictMark_self _ _)]
  rfl

/-- **What is written with milliseconds is read**, up to what is shorter than one. -/
theorem Instant.strict?_writeMillis {t : Instant} (h : t.nanos < 1000000000) :
    Instant.strict? (writeMillis t) = some ⟨t.seconds, t.nanos / 1000000 * 1000000⟩ := by
  have hlength : daySeconds = 86400 := rfl
  obtain ⟨hpos, hexists, hnumber⟩ := civil_spec (t.seconds / daySeconds)
  have htext : (writeMillis t).toList = writeDay (civil (t.seconds / daySeconds)).year
      (civil (t.seconds / daySeconds)).month (civil (t.seconds / daySeconds)).day ++
      'T' :: (padded 2 ((t.seconds % daySeconds).toNat / 3600) ++
      ':' :: (padded 2 ((t.seconds % daySeconds).toNat / 60 % 60) ++
      ':' :: (padded 2 ((t.seconds % daySeconds).toNat % 60) ++
      '.' :: (padded 3 (t.nanos / 1000000) ++ ['Z'])))) := by
    have hutc : t.seconds + Offset.utc.seconds = t.seconds := Int.add_zero _
    have hwhole : t.nanos / 1000000000 = 0 := by omega
    have hpart : t.nanos % 1000000000 = t.nanos := Nat.mod_eq_of_lt h
    unfold writeMillis writeSeconds localParts
    rw [String.toList_ofList]
    dsimp only
    rw [hutc, hwhole, hpart]
    simp only [List.append_assoc, List.cons_append, Nat.add_zero]
  have hhour : (t.seconds % daySeconds).toNat / 3600 ≤ 23 := by
    rw [hlength]
    omega
  have hminute : (t.seconds % daySeconds).toNat / 60 % 60 ≤ 59 := by omega
  have hsecond : (t.seconds % daySeconds).toNat % 60 ≤ 59 := by omega
  have hmillis : t.nanos / 1000000 ≤ 999 := by omega
  have hread := strictInstant_write ⟨hpos, hexists⟩ hhour hminute hsecond hmillis
  have hseconds : t.seconds / daySeconds * daySeconds + (((t.seconds % daySeconds).toNat / 3600 * 3600 +
      (t.seconds % daySeconds).toNat / 60 % 60 * 60 + (t.seconds % daySeconds).toNat % 60 : Nat) : Int) =
      t.seconds := by
    rw [hlength]
    omega
  unfold strict?
  rw [htext, hread, hnumber, hseconds]

/-! ## Local time -/

/-- **Clocks at an offset show the local time that an instant was made of.** -/
theorem Instant.localParts_ofLocal? {d : Date} {hour minute second nanos : Nat} {offset : Offset}
    {t : Instant} (h : Instant.ofLocal? d hour minute second nanos offset = some t) (hhour : hour ≤ 23)
    (hminute : minute ≤ 59) (hsecond : second ≤ 59) :
    t.localParts offset = ⟨⟨d.year, d.month, d.day⟩, hour, minute, second, nanos⟩ := by
  have hlength : daySeconds = 86400 := rfl
  obtain ⟨-, hnanos, hseconds⟩ := of_ofLocal? h
  have hlocal : t.seconds + offset.seconds =
      d.number * daySeconds + (hour * 3600 + minute * 60 + second : Nat) := by omega
  have hday : (t.seconds + offset.seconds) / daySeconds = dayNumber d.year d.month d.day := by
    have hnumber : d.number = dayNumber d.year d.month d.day := rfl
    rw [hlocal, hlength, ← hnumber]
    omega
  have htime : ((t.seconds + offset.seconds) % daySeconds).toNat = hour * 3600 + minute * 60 + second := by
    rw [hlocal, hlength]
    omega
  have hparts : (hour * 3600 + minute * 60 + second) / 3600 = hour ∧
      (hour * 3600 + minute * 60 + second) / 60 % 60 = minute ∧
      (hour * 3600 + minute * 60 + second) % 60 = second := by omega
  obtain ⟨hh, hm, hs⟩ := hparts
  unfold localParts
  dsimp only
  rw [hday, htime, hh, hm, hs, hnanos, civil_dayNumber d.exists_day]

end Shoreline.Time
