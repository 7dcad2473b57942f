import Shoreline.Proofs.Decimal.Length
import Shoreline.Proofs.Time.Civil
import Shoreline.Time.Rfc3339

/-!
# `Shoreline.Proofs.Time.ReadBack` — dates and instants are read back from their texts

The reader of dates and instants is lenient, the writer is not: what is written is one of the texts that
are read, and it is read as what was written. For instants this needs that they are instants of the
calendar: in the range of the dates, with a leap second only at the end of a minute. Every instant that
was read is one.

## Contents
- `value_padded`, `length_padded`, `value_lt`; `Scan.bind_of`, `Scan.of_bind`: one reader after another.
- Tokens: `readDigits_append`, `readNumber_padded`, `readMark_self`, `readYear_write`.
- `readDate_write`, `Date.parse?_iso`.
- `Instant.Valid`; `Instant.parse?_writeShort`, `Instant.valid_of_parse?`.
-/

namespace Shoreline.Decimal

/-! ## Padded numbers -/

theorem value_zeros (k : Nat) (s : List Char) : value (List.replicate k '0' ++ s) = value s := by
  induction k with
  | zero => rfl
  | succ k ih =>
    rw [List.replicate_succ, List.cons_append, ← ih]
    rfl

theorem value_padded (width n : Nat) : value (padded width n) = n := by
  unfold padded
  rw [value_zeros, value_numeral]

theorem isDigit_of_mem_padded {width n : Nat} {c : Char} (h : c ∈ padded width n) :
    c.isDigit = true := by
  rcases List.mem_append.mp h with hzero | hdigit
  · rw [List.eq_of_mem_replicate hzero]
    decide
  · exact isDigit_of_mem_numeral hdigit

theorem padded_ne_nil (width n : Nat) : padded width n ≠ [] := by
  unfold padded
  exact List.append_ne_nil_of_right_ne_nil _ (numeral_ne_nil n)

/-- A padded number begins with a digit. -/
theorem padded_head (width n : Nat) : ∃ d ds, padded width n = d :: ds ∧ d.isDigit = true := by
  obtain ⟨d, ds, hds⟩ := List.exists_cons_of_ne_nil (padded_ne_nil width n)
  have hmem : d ∈ padded width n := by
    rw [hds]
    exact List.mem_cons_self
  exact ⟨d, ds, hds, isDigit_of_mem_padded hmem⟩

theorem digitValue_le {c : Char} (h : c.isDigit = true) : digitValue c ≤ 9 := by
  simp only [Char.isDigit, Bool.and_eq_true, decide_eq_true_eq] at h
  have hhigh : c.toNat ≤ 57 := h.2
  unfold digitValue
  omega

theorem foldl_digits_lt {s : List Char} (h : ∀ c ∈ s, c.isDigit = true) (v : Nat) :
    s.foldl (fun v c => 10 * v + digitValue c) v < (v + 1) * 10 ^ s.length := by
  -- the number so far grows with each digit, so the statement is about every number
  induction s generalizing v with
  | nil =>
    rw [List.length_nil, Nat.pow_zero, Nat.mul_one]
    exact Nat.lt_succ_self v
  | cons c s ih =>
    have hc := digitValue_le (h c List.mem_cons_self)
    have hs := ih (fun d hd => h d (List.mem_cons_of_mem c hd)) (10 * v + digitValue c)
    calc (c :: s).foldl (fun v c => 10 * v + digitValue c) v
        = s.foldl (fun v c => 10 * v + digitValue c) (10 * v + digitValue c) := rfl
      _ < (10 * v + digitValue c + 1) * 10 ^ s.length := hs
      _ ≤ ((v + 1) * 10) * 10 ^ s.length := Nat.mul_le_mul_right _ (by omega)
      _ = (v + 1) * 10 ^ (c :: s).length := by
        rw [List.length_cons, Nat.pow_succ, Nat.mul_assoc, Nat.mul_comm 10]

/-- So many digits make a number below that power of ten. -/
theorem value_lt {s : List Char} (h : ∀ c ∈ s, c.isDigit = true) : value s < 10 ^ s.length := by
  have hlt := foldl_digits_lt h 0
  rw [Nat.zero_add, Nat.one_mul] at hlt
  exact hlt

/-- A number that has at most so many digits is padded to just so many. -/
theorem length_padded {width n : Nat} (hwidth : 0 < width) (h : n < 10 ^ width) :
    (padded width n).length = width := by
  have hlength := length_numeral_le hwidth h
  unfold padded
  rw [List.length_append, List.length_replicate]
  omega

end Shoreline.Decimal

namespace Shoreline.Time

open Text Decimal

/-! ## One reader after another -/

namespace Scan

variable {α β : Type}

theorem bind_of {r : Scan α} {f : α → Scan β} {s rest : List Char} {a : α}
    (h : r s = some (a, rest)) : (r >>= f) s = f a rest := by
  show (r s).bind (fun p => f p.1 p.2) = _
  rw [h]
  rfl

theorem of_bind {r : Scan α} {f : α → Scan β} {s : List Char} {x : β × List Char}
    (h : (r >>= f) s = some x) : ∃ a rest, r s = some (a, rest) ∧ f a rest = some x := by
  have hbind : (r s).bind (fun p => f p.1 p.2) = some x := h
  obtain ⟨⟨a, rest⟩, hr, hf⟩ := Option.bind_eq_some_iff.mp hbind
  exact ⟨a, rest, hr, hf⟩

theorem map_of {r : Scan α} {s rest : List Char} {a : α} (h : r s = some (a, rest)) (f : α → β) :
    (StateT.map f r).run s = some (f a, rest) := by
  show (r s).bind (fun p => some (f p.1, p.2)) = _
  rw [h]
  rfl

theorem lift_eq (o : Option α) (s : List Char) : (liftM o : Scan α) s = o.map (·, s) := by
  cases o <;> rfl

end Scan

/-! ## Tokens -/

/-- A character that is not blank is not passed over. -/
theorem stripStart_cons {c : Char} (h : isBlank c = false) (s : List Char) :
    stripStart isBlank (c :: s) = c :: s := by
  unfold stripStart
  rw [List.dropWhile_cons_of_neg (by rw [h]; exact Bool.false_ne_true)]

/-- Digits are read as far as they go, or as far as they may. -/
theorem readDigits_append {width : Nat} {ds : List Char} (hne : ds ≠ [])
    (hdigits : ∀ c ∈ ds, c.isDigit = true) (hlength : ds.length ≤ width) (rest : List Char)
    (hend : ds.length = width ∨ ∀ c ∈ rest.head?, c.isDigit = false) :
    readDigits width (ds ++ rest) = some (value ds, rest) := by
  have htake : ((ds ++ rest).take width).takeWhile Char.isDigit = ds := by
    rw [List.take_append, List.take_of_length_le hlength, List.takeWhile_append_of_pos hdigits]
    rcases hend with heq | hnext
    · rw [heq, Nat.sub_self, List.take_zero]
      simp
    · cases hw : width - ds.length with
      | zero => simp
      | succ k =>
        cases rest with
        | nil => simp
        | cons c rest =>
          have hc := hnext c rfl
          simp [hc]
  unfold readDigits
  simp only [htake, List.drop_left]
  rw [if_neg (by simpa using hne)]

/-- **A padded number is read back**, whatever follows it. -/
theorem readNumber_padded {width n least greatest : Nat} (hwidth : 0 < width) (h : n < 10 ^ width)
    (hbounds : least ≤ n ∧ n ≤ greatest) (rest : List Char) :
    readNumber width least greatest (padded width n ++ rest) = some (n, rest) := by
  have hlength := length_padded hwidth h
  have hskip : skipBlank (padded width n ++ rest) = some ((), padded width n ++ rest) := by
    obtain ⟨d, ds, hds, hd⟩ := padded_head width n
    unfold skipBlank
    rw [hds, List.cons_append, stripStart_cons (isBlank_of_isDigit hd)]
  have hdigits := readDigits_append (padded_ne_nil width n) (fun _ hc => isDigit_of_mem_padded hc)
    (Nat.le_of_eq hlength) rest (.inl hlength)
  unfold readNumber
  rw [Scan.bind_of hskip, Scan.bind_of hdigits, value_padded, if_pos hbounds]
  rfl

theorem readMark_self {c : Char} (h : isBlank c = false) (rest : List Char) :
    readMark c (c :: rest) = some ((), rest) := by
  unfold readMark
  rw [stripStart_cons h]
  exact if_pos rfl

/-! ## Dates -/

/-- **A year is read back**, if no digit follows it. -/
theorem readYear_write (year : Int) {rest : List Char}
    (hrest : ∀ c ∈ rest.head?, c.isDigit = false) :
    readYear (writeYear year ++ rest) = some (year, rest) := by
  obtain ⟨d, ds, hds, hd⟩ := padded_head 4 year.natAbs
  have hdigits : ∀ c ∈ padded 4 year.natAbs, c.isDigit = true := fun _ hc => isDigit_of_mem_padded hc
  have hne := padded_ne_nil 4 year.natAbs
  unfold readYear writeYear
  by_cases hplain : 0 ≤ year ∧ year ≤ 9999
  · -- four digits without a sign
    have hlength : (padded 4 year.natAbs).length = 4 := length_padded (by decide) (by omega)
    have hread := readDigits_append hne hdigits (Nat.le_of_eq hlength) rest (.inl hlength)
    have hyear : Int.ofNat (value (padded 4 year.natAbs)) = year := by
      rw [value_padded]
      exact Int.natAbs_of_nonneg hplain.1
    rw [if_pos hplain]
    rw [hds] at hread hyear ⊢
    rw [List.cons_append, stripStart_cons (isBlank_of_isDigit hd)]
    split
    · next r h => exact absurd hd (by rw [(List.cons.inj h).1]; decide)
    · next r h => exact absurd hd (by rw [(List.cons.inj h).1]; decide)
    · rw [← List.cons_append, Scan.map_of hread, hyear]
  · -- a sign, then as many digits as there are
    have hlength : (padded 4 year.natAbs).length ≤ (padded 4 year.natAbs ++ rest).length := by
      rw [List.length_append]
      exact Nat.le_add_right _ _
    have hread := readDigits_append hne hdigits hlength rest (.inr hrest)
    rw [if_neg hplain]
    by_cases hneg : year < 0
    · have hyear : -((value (padded 4 year.natAbs) : Nat) : Int) = year := by
        rw [value_padded]
        omega
      have hcast : (do let a ← readDigits (padded 4 year.natAbs ++ rest).length; pure (a : Int) :
          Scan Int) (padded 4 year.natAbs ++ rest) = some ((value (padded 4 year.natAbs) : Int), rest) := by
        rw [Scan.bind_of hread]
        rfl
      rw [if_pos hneg, List.cons_append, stripStart_cons (by decide)]
      exact (Scan.map_of hcast (fun n => -n)).trans (by rw [hyear])
    · have hyear : Int.ofNat (value (padded 4 year.natAbs)) = year := by
        rw [value_padded]
        exact Int.natAbs_of_nonneg (by omega)
      rw [if_neg hneg, List.cons_append, stripStart_cons (by decide)]
      exact (Scan.map_of hread Int.ofNat).trans (by rw [hyear])

/-- A day has at most the number 31. -/
theorem Date.day_le (d : Date) : d.day ≤ 31 :=
  Nat.le_trans d.exists_day.2 (monthLength_le d.year d.month)

/-- **A date is read back**, whatever follows it. -/
theorem readDate_write (d : Date) (rest : List Char) :
    readDate (writeDay d.year d.month d.day ++ rest) = some (d, rest) := by
  have hmonth := d.month_mem
  have hday : 1 ≤ d.day ∧ d.day ≤ 31 := ⟨d.exists_day.1, d.day_le⟩
  have hyear : readYear (writeYear d.year ++ '-' :: (padded 2 d.month ++ '-' :: (padded 2 d.day ++ rest)))
      = some (d.year, '-' :: (padded 2 d.month ++ '-' :: (padded 2 d.day ++ rest))) := by
    refine readYear_write d.year fun c hc => ?_
    rw [← Option.some.inj hc]
    decide
  unfold writeDay readDate
  rw [List.append_assoc, List.append_assoc, List.cons_append, List.cons_append]
  rw [Scan.bind_of hyear, Scan.bind_of (readMark_self (by decide) _),
    Scan.bind_of (readNumber_padded (by decide) (by omega) hmonth _),
    Scan.bind_of (readMark_self (by decide) _),
    Scan.bind_of (readNumber_padded (by decide) (by omega) hday _)]
  rw [Scan.lift_eq, d.of?_parts]
  rfl

/-- **Every date is read back from its ISO text.** -/
theorem Date.parse?_iso (d : Date) : Date.parse? d.iso = some d := by
  have hread := readDate_write d []
  rw [List.append_nil] at hread
  unfold Date.parse? Scan.all? Date.iso
  rw [String.toList_ofList, hread]
  rfl

/-! ## Instants -/

namespace Instant

/-- An instant of the calendar: it lies in the range of the dates, and only the last second of a minute
is longer than a second. -/
structure Valid (t : Instant) : Prop where
  inRange : minSeconds ≤ t.seconds ∧ t.seconds ≤ maxSeconds
  nanos : t.nanos < 2000000000
  leap : 1000000000 ≤ t.nanos → t.seconds % 60 = 59

end Instant

/-- A fraction of three, six or nine digits is read back in nanoseconds. -/
theorem readNanos_padded {width n : Nat} (hwidth : 0 < width) (hnine : width ≤ 9) (h : n < 10 ^ width) :
    readNanos ('.' :: (padded width n ++ ['Z'])) = some (n * 10 ^ (9 - width), ['Z']) := by
  have hlength := length_padded hwidth h
  have hend : ∀ c ∈ ['Z'].head?, c.isDigit = false := by
    rintro c ⟨⟩
    decide
  have hread := readDigits_append (padded_ne_nil width n) (fun _ hc => isDigit_of_mem_padded hc)
    (Nat.le_trans (Nat.le_of_eq hlength) hnine) ['Z'] (.inr hend)
  unfold readNanos
  have htaken : (padded width n ++ ['Z']).length - ['Z'].length = width := by
    rw [List.length_append, hlength, Nat.add_sub_cancel]
  simp only [hread, value_padded, htaken]
  rfl

/-- The fraction of a second in a short text. -/
def fractionText (n : Nat) : List Char :=
  if n = 0 then []
  else if n % 1000000 = 0 then '.' :: padded 3 (n / 1000000)
  else if n % 1000 = 0 then '.' :: padded 6 (n / 1000)
  else '.' :: padded 9 n

/-- **The fraction that is written is read back**: as many groups of three digits as it takes. -/
theorem readNanos_fraction {n : Nat} (h : n < 1000000000) :
    readNanos (fractionText n ++ ['Z']) = some (n, ['Z']) := by
  unfold fractionText
  split
  · next hzero =>
    rw [hzero]
    rfl
  · split
    · next hmillis =>
      have hback : n / 1000000 * 10 ^ (9 - 3) = n := by omega
      rw [List.cons_append, readNanos_padded (by decide) (by decide) (by omega), hback]
    · split
      · next hmicros =>
        have hback : n / 1000 * 10 ^ (9 - 6) = n := by omega
        rw [List.cons_append, readNanos_padded (by decide) (by decide) (by omega), hback]
      · have hback : n * 10 ^ (9 - 9) = n := Nat.mul_one n
        rw [List.cons_append, readNanos_padded (by decide) (by decide) (by omega), hback]

/-- Time of day, fraction and the letter of UTC. -/
theorem readInstant_write {d : Date} {hour minute second nanos : Nat} (hhour : hour ≤ 23)
    (hminute : minute ≤ 59) (hsecond : second ≤ 60) {fraction : List Char}
    (hfraction : readNanos (fraction ++ ['Z']) = some (nanos, ['Z'])) :
    readInstant (writeDay d.year d.month d.day ++ 'T' :: (padded 2 hour ++ ':' :: (padded 2 minute ++
      ':' :: (padded 2 second ++ (fraction ++ ['Z']))))) =
      (if second = 60 then Instant.ofLocal? d hour minute 59 (nanos + 1000000000) Offset.utc
        else Instant.ofLocal? d hour minute second nanos Offset.utc).map (·, []) := by
  have hmark : ∀ s, readTimeMark ('T' :: s) = some ((), s) := fun s => rfl
  have hoffset : readOffset ['Z'] = some (0, []) := by decide
  unfold readInstant
  rw [Scan.bind_of (readDate_write d _), Scan.bind_of (hmark _),
    Scan.bind_of (readNumber_padded (by decide) (by omega) ⟨Nat.zero_le _, hhour⟩ _),
    Scan.bind_of (readMark_self (by decide) _),
    Scan.bind_of (readNumber_padded (by decide) (by omega) ⟨Nat.zero_le _, hminute⟩ _),
    Scan.bind_of (readMark_self (by decide) _),
    Scan.bind_of (readNumber_padded (by decide) (by omega) ⟨Nat.zero_le _, hsecond⟩ _),
    Scan.bind_of hfraction, Scan.bind_of hoffset]
  have hutc : (liftM (Offset.of? 0) : Scan Offset) [] = some (Offset.utc, []) := by
    rw [Scan.lift_eq]
    decide
  rw [Scan.bind_of hutc]
  split
  · exact Scan.lift_eq _ _
  · exact Scan.lift_eq _ _

/-- The parts of an instant at no offset are those of its day and its time of day. -/
theorem Instant.ofLocal?_parts {t : Instant} (h : t.Valid) {d : Date}
    (hnumber : d.number = t.seconds / daySeconds) {second nanos : Nat}
    (hsecond : (second : Int) = t.seconds % 60) (hnanos : nanos = t.nanos) :
    Instant.ofLocal? d ((t.seconds % daySeconds).toNat / 3600)
      ((t.seconds % daySeconds).toNat / 60 % 60) second nanos Offset.utc = some t := by
  have hutc : Offset.utc.seconds = 0 := rfl
  have hday : daySeconds = 86400 := rfl
  have hseconds : d.number * daySeconds + (((t.seconds % daySeconds).toNat / 3600 * 3600 +
      (t.seconds % daySeconds).toNat / 60 % 60 * 60 + second : Nat) : Int) - Offset.utc.seconds =
      t.seconds := by
    rw [hnumber, hutc, hday]
    omega
  unfold Instant.ofLocal? Instant.of?
  rw [hseconds, if_pos h.inRange, hnanos]

/-- **Every instant of the calendar is read back from its short text.** -/
theorem Instant.parse?_writeShort {t : Instant} (h : t.Valid) :
    Instant.parse? (writeShort t) = some t := by
  have hday : daySeconds = 86400 := rfl
  have hmin : minSeconds = dayNumber minYear 1 1 * 86400 := rfl
  have hmax : maxSeconds = dayNumber maxYear 12 31 * 86400 + 86399 := rfl
  obtain ⟨hleast, hgreatest⟩ := h.inRange
  have hfirst : dayNumber minYear 1 1 ≤ t.seconds / daySeconds := by
    rw [hday]
    omega
  have hlast : t.seconds / daySeconds ≤ dayNumber maxYear 12 31 := by
    rw [hday]
    omega
  obtain ⟨d, _, hnumber, hyear, hmonth, hdayOf⟩ := Date.of?_civil hfirst hlast
  have hnanos := h.nanos
  have hfraction := readNanos_fraction (n := t.nanos % 1000000000) (Nat.mod_lt _ (by decide))
  have htext : writeShort t = String.ofList (writeDay d.year d.month d.day ++
      'T' :: (padded 2 ((t.seconds % daySeconds).toNat / 3600) ++
      ':' :: (padded 2 ((t.seconds % daySeconds).toNat / 60 % 60) ++
      ':' :: (padded 2 ((t.seconds % daySeconds).toNat % 60 + t.nanos / 1000000000) ++
      (fractionText (t.nanos % 1000000000) ++ ['Z']))))) := by
    have hutc : t.seconds + Offset.utc.seconds = t.seconds := Int.add_zero _
    rw [hyear, hmonth, hdayOf]
    unfold writeShort writeSeconds localParts
    dsimp only
    rw [hutc]
    simp only [List.append_assoc, List.cons_append]
    rfl
  have hhour : (t.seconds % daySeconds).toNat / 3600 ≤ 23 := by
    rw [hday]
    omega
  have hminute : (t.seconds % daySeconds).toNat / 60 % 60 ≤ 59 := by omega
  have hinMinute : (((t.seconds % daySeconds).toNat % 60 : Nat) : Int) = t.seconds % 60 := by
    rw [hday]
    omega
  have hsecond : (t.seconds % daySeconds).toNat % 60 + t.nanos / 1000000000 ≤ 60 := by omega
  have hread := readInstant_write (d := d) hhour hminute hsecond hfraction
  unfold parse? Scan.all?
  rw [htext, String.toList_ofList, hread]
  by_cases hleap : 1000000000 ≤ t.nanos
  · -- the leap second is written as the second 60 of its minute
    have hlastSecond := h.leap hleap
    have hparts : ofLocal? d ((t.seconds % daySeconds).toNat / 3600)
        ((t.seconds % daySeconds).toNat / 60 % 60) 59 (t.nanos % 1000000000 + 1000000000) Offset.utc =
        some t :=
      ofLocal?_parts h hnumber (by omega) (by omega)
    rw [if_pos (by omega), hparts]
    rfl
  · have hparts : ofLocal? d ((t.seconds % daySeconds).toNat / 3600)
        ((t.seconds % daySeconds).toNat / 60 % 60) ((t.seconds % daySeconds).toNat % 60)
        (t.nanos % 1000000000) Offset.utc = some t :=
      ofLocal?_parts h hnumber hinMinute (by omega)
    have hwhole : (t.seconds % daySeconds).toNat % 60 + t.nanos / 1000000000 =
        (t.seconds % daySeconds).toNat % 60 := by omega
    rw [hwhole, if_neg (by omega), hparts]
    rfl

/-! ## What is read is an instant of the calendar -/

theorem readNanos_lt {s rest : List Char} {n : Nat} (h : readNanos s = some (n, rest)) :
    n < 1000000000 := by
  unfold readNanos at h
  split at h
  · next r =>
    split at h
    · next m left hread =>
      unfold readDigits at hread
      dsimp only at hread
      split at hread
      · cases hread
      · next hne =>
        have hpair := Prod.mk.inj (Option.some.inj hread)
        have hprefix := List.takeWhile_prefix Char.isDigit (l := r.take 9)
        have hwidth : ((r.take 9).takeWhile Char.isDigit).length ≤ 9 :=
          Nat.le_trans hprefix.length_le (List.length_take_le 9 r)
        have hshort : ((r.take 9).takeWhile Char.isDigit).length ≤ r.length :=
          Nat.le_trans hprefix.length_le (List.length_take_le' 9 r)
        have hdigits : ∀ c ∈ (r.take 9).takeWhile Char.isDigit, c.isDigit = true :=
          fun c hc => List.all_eq_true.mp (List.all_takeWhile) c hc
        have hvalue := value_lt hdigits
        have hlength : r.length - left.length = ((r.take 9).takeWhile Char.isDigit).length := by
          rw [← hpair.2, List.length_drop]
          omega
        have hn := (Prod.mk.inj (Option.some.inj h)).1
        rw [hlength, ← hpair.1] at hn
        rw [← hn]
        calc value ((r.take 9).takeWhile Char.isDigit) *
              10 ^ (9 - ((r.take 9).takeWhile Char.isDigit).length)
            < 10 ^ ((r.take 9).takeWhile Char.isDigit).length *
              10 ^ (9 - ((r.take 9).takeWhile Char.isDigit).length) :=
              Nat.mul_lt_mul_of_pos_right hvalue (Nat.pow_pos (by decide))
          _ = 1000000000 := by rw [← Nat.pow_add, Nat.add_sub_cancel' hwidth]
    · cases h
  · have hn := (Prod.mk.inj (Option.some.inj h)).1
    omega

/-- Offsets are whole minutes. -/
theorem readShift_minutes {s rest : List Char} {shift : Int} (h : readShift s = some (shift, rest)) :
    shift % 60 = 0 := by
  obtain ⟨hours, s₁, _, h⟩ := Scan.of_bind h
  obtain ⟨_, s₂, _, h⟩ := Scan.of_bind h
  obtain ⟨minutes, s₃, _, h⟩ := Scan.of_bind h
  have hshift : ((hours * 3600 + minutes * 60 : Nat) : Int) = shift :=
    (Prod.mk.inj (Option.some.inj h)).1
  omega

theorem readOffset_minutes {s rest : List Char} {shift : Int} (h : readOffset s = some (shift, rest)) :
    shift % 60 = 0 := by
  have hminus : ∀ r, (StateT.map (- ·) readShift).run r = some (shift, rest) → shift % 60 = 0 := by
    intro r hr
    have hbind : (readShift r).bind (fun p => some (-p.1, p.2)) = some (shift, rest) := hr
    obtain ⟨⟨back, left⟩, hback, hpair⟩ := Option.bind_eq_some_iff.mp hbind
    have hminutes := readShift_minutes hback
    have hneg : -back = shift := (Prod.mk.inj (Option.some.inj hpair)).1
    omega
  unfold readOffset at h
  dsimp only at h
  split at h
  · have hzero := (Prod.mk.inj (Option.some.inj h)).1
    omega
  · split at h
    · have hzero := (Prod.mk.inj (Option.some.inj h)).1
      omega
    · have hzero := (Prod.mk.inj (Option.some.inj h)).1
      omega
    · exact readShift_minutes h
    · exact hminus _ h
    · exact hminus _ h
    · cases h

/-- A local time that is represented is an instant in range, with the seconds that it says. -/
theorem Instant.of_ofLocal? {d : Date} {hour minute second nanos : Nat} {offset : Offset} {t : Instant}
    (h : Instant.ofLocal? d hour minute second nanos offset = some t) :
    (minSeconds ≤ t.seconds ∧ t.seconds ≤ maxSeconds) ∧ t.nanos = nanos ∧
      t.seconds = d.number * daySeconds + (hour * 3600 + minute * 60 + second : Nat) -
        offset.seconds := by
  unfold ofLocal? of? at h
  split at h
  · next hrange =>
    rw [← Option.some.inj h]
    exact ⟨hrange, rfl, rfl⟩
  · cases h

/-- **Every instant that is read is one of the calendar.** -/
theorem Instant.valid_of_parse? {s : String} {t : Instant} (h : Instant.parse? s = some t) : t.Valid := by
  unfold parse? Scan.all? at h
  split at h
  · next a rest hread =>
    split at h
    · obtain rfl := Option.some.inj h
      obtain ⟨date, s₁, _, hread⟩ := Scan.of_bind hread
      obtain ⟨_, s₂, _, hread⟩ := Scan.of_bind hread
      obtain ⟨hour, s₃, _, hread⟩ := Scan.of_bind hread
      obtain ⟨_, s₄, _, hread⟩ := Scan.of_bind hread
      obtain ⟨minute, s₅, _, hread⟩ := Scan.of_bind hread
      obtain ⟨_, s₆, _, hread⟩ := Scan.of_bind hread
      obtain ⟨second, s₇, _, hread⟩ := Scan.of_bind hread
      obtain ⟨nanos, s₈, hnanos, hread⟩ := Scan.of_bind hread
      obtain ⟨shift, s₉, hshift, hread⟩ := Scan.of_bind hread
      obtain ⟨offset, s₁₀, hoffset, hread⟩ := Scan.of_bind hread
      have hfraction := readNanos_lt hnanos
      have hminutes : offset.seconds % 60 = 0 := by
        rw [Scan.lift_eq] at hoffset
        obtain ⟨_, hof, hpair⟩ := Option.map_eq_some_iff.mp hoffset
        unfold Offset.of? at hof
        split at hof
        · rw [← (Prod.mk.inj hpair).1, ← Option.some.inj hof]
          exact readOffset_minutes hshift
        · cases hof
      have hday : daySeconds = 86400 := rfl
      split at hread
      · -- the second 60 is kept as a longer last second of its minute
        rw [Scan.lift_eq] at hread
        obtain ⟨u, hlocal, hpair⟩ := Option.map_eq_some_iff.mp hread
        obtain ⟨hrange, hpart, hseconds⟩ := of_ofLocal? hlocal
        rw [← (Prod.mk.inj hpair).1]
        refine ⟨hrange, by omega, fun _ => ?_⟩
        rw [hseconds, hday]
        omega
      · rw [Scan.lift_eq] at hread
        obtain ⟨u, hlocal, hpair⟩ := Option.map_eq_some_iff.mp hread
        obtain ⟨hrange, hpart, _⟩ := of_ofLocal? hlocal
        rw [← (Prod.mk.inj hpair).1]
        exact ⟨hrange, by omega, fun hleap => absurd hleap (by omega)⟩
    · cases h
  · cases h

end Shoreline.Time
