import Shoreline.Settings
import Shoreline.Proofs.Time.ReadBack
import Shoreline.Proofs.Url.Segment

/-!
# `Shoreline.Proofs.Settings.OffsetForms` — which texts are offsets of local time

An offset is written as `Z` or `UTC` in any case, or as a sign with two digits of hours, perhaps a colon, and
two digits of minutes. All of these are read as what they say. But the reader drops every colon behind the
sign before it looks at the digits, and of what they make together it only asks that it is less than a day.
So colons may stand anywhere among the digits, and minutes may go on beyond an hour. Nothing else is read,
and what is not read is a fault of the variable.

## Contents
- `padded_pair`, `exists_pair`, `pair_eq_padded`: numbers of two digits.
- `NamesUtc`, `Neat`, `Documented`: the forms of an offset. `namesUtc_iff`: letters of any case.
- `parseShift_eq_some_iff`, `Spells`, `Spells.unique`, `Neat.spells`: digits with colons among them.
- `parseOffset_seconds_iff`: what is read; `read_error_iff`: what happens to the rest.
- `Documented.of_spells`, `Documented.seconds`; `offsets_are_documented_iff`, with an offset between blanks,
  and `stray_colons_are_read`.
-/

namespace Shoreline.Decimal

/-! ## Numbers of two digits -/

theorem digitChar_digitValue {c : Char} (h : c.isDigit = true) : digitChar (digitValue c) = c := by
  simp only [Char.isDigit, Bool.and_eq_true, decide_eq_true_eq] at h
  have hlow : 48 ≤ c.toNat := h.1
  unfold digitChar digitValue
  rw [Nat.add_sub_cancel' hlow, Char.ofNat_toNat]

/-- A number below a hundred is padded to two digits. -/
theorem padded_pair {n : Nat} (h : n ≤ 99) : padded 2 n = [digitChar (n / 10), digitChar (n % 10)] := by
  unfold padded
  rw [numeral]
  split
  · next hsmall =>
    rw [Nat.div_eq_of_lt hsmall, Nat.mod_eq_of_lt hsmall]
    rfl
  · next hlarge =>
    rw [numeral, if_pos (by omega)]
    rfl

/-- So it is two digits that stand for it. -/
theorem exists_pair {n : Nat} (h : n ≤ 99) : ∃ a b, padded 2 n = [a, b] ∧ a.isDigit = true ∧
    b.isDigit = true ∧ value [a, b] = n := by
  have hpair := padded_pair h
  exact ⟨_, _, hpair, isDigit_digitChar (by omega), isDigit_digitChar (by omega), hpair ▸ value_padded 2 n⟩

/-- Two digits are a number below a hundred that is padded to them. -/
theorem pair_eq_padded {a b : Char} (ha : a.isDigit = true) (hb : b.isDigit = true) :
    value [a, b] ≤ 99 ∧ [a, b] = padded 2 (value [a, b]) := by
  have hvalue : value [a, b] = 10 * digitValue a + digitValue b := by simp [value]
  have hla := digitValue_le ha
  have hlb := digitValue_le hb
  have hle : value [a, b] ≤ 99 := by omega
  have htens : value [a, b] / 10 = digitValue a := by omega
  have hones : value [a, b] % 10 = digitValue b := by omega
  exact ⟨hle, by rw [padded_pair hle, htens, hones, digitChar_digitValue ha, digitChar_digitValue hb]⟩

/-- No digit is a colon. -/
theorem filter_padded (width n : Nat) : (padded width n).filter (· != ':') = padded width n := by
  refine List.filter_eq_self.mpr fun c hc => ?_
  have hdigit := isDigit_of_mem_padded hc
  rw [bne_iff_ne]
  rintro rfl
  exact absurd hdigit (by decide)

end Shoreline.Decimal

namespace Shoreline.OffsetText

open Text Time Decimal

/-! ## The forms of an offset -/

/-- The letter `Z` or the letters `UTC`, each in any case. -/
def NamesUtc (t : List Char) : Prop :=
  (∃ z ∈ ['z', 'Z'], t = [z]) ∨ ∃ u ∈ ['u', 'U'], ∃ v ∈ ['t', 'T'], ∃ c ∈ ['c', 'C'], t = [u, v, c]

/-- The signs of an offset, each with what it does to the seconds behind it. -/
def signs : List (Char × Int) := [('+', 1), ('-', -1)]

/-- A sign, two digits of hours and two digits of minutes, with a colon between them or without. -/
def Neat (t : List Char) (sign : Char × Int) (hours minutes : Nat) : Prop :=
  t = sign.1 :: (padded 2 hours ++ padded 2 minutes) ∨
    t = sign.1 :: (padded 2 hours ++ ':' :: padded 2 minutes)

/-- The forms in which an offset may be written, each with its seconds. -/
inductive Documented : List Char → Int → Prop
  | utc {t : List Char} (named : NamesUtc t) : Documented t 0
  | shift {t : List Char} {sign : Char × Int} {hours minutes : Nat} (signed : sign ∈ signs)
      (neat : Neat t sign hours minutes) (hour : hours ≤ 23) (minute : minutes ≤ 59) :
      Documented t (sign.2 * (hours * 3600 + minutes * 60 : Nat))

/-! ## Letters of any case -/

/-- The small letters of the names are made of themselves and of their capitals. -/
theorem toLower_eq_iff {c d : Char} (hd : d ∈ ['z', 'u', 't', 'c']) :
    c.toLower = d ↔ c ∈ [d, d.toUpper] := by
  -- decided by running through the lists, since there are too many characters to try
  have hall : ∀ n < 128, (['z', 'u', 't', 'c'].all fun d =>
      decide ((Char.ofNat n).toLower = d → Char.ofNat n ∈ [d, d.toUpper])) = true := by decide
  have hback : (['z', 'u', 't', 'c'].all fun d => [d, d.toUpper].all (·.toLower = d)) = true := by decide
  refine ⟨fun h => ?_, fun hc => ?_⟩
  · rcases Nat.lt_or_ge c.toNat 128 with hlow | hhigh
    · have hc := of_decide_eq_true (List.all_eq_true.mp (hall c.toNat hlow) d hd)
      rw [Char.ofNat_toNat] at hc
      exact hc h
    · rw [Url.toLower_of_le hhigh] at h
      rw [h]
      exact List.mem_cons_self
  · exact of_decide_eq_true (List.all_eq_true.mp (List.all_eq_true.mp hback d hd) c hc)

/-- A text is a name of UTC exactly if its small letters are. -/
theorem namesUtc_iff (s : String) : lowerAscii s = "z" ∨ lowerAscii s = "utc" ↔ NamesUtc s.toList := by
  have hlower : ∀ w : String, lowerAscii s = w ↔ s.toList.map Char.toLower = w.toList := by
    intro w
    unfold lowerAscii
    rw [← String.toList_inj, String.toList_ofList]
  rw [hlower, hlower]
  refine or_congr ⟨?_, ?_⟩ ⟨?_, ?_⟩
  · intro h
    obtain ⟨z, ht, hz⟩ := List.map_eq_singleton_iff.mp h
    exact ⟨z, (toLower_eq_iff (by decide)).mp hz, ht⟩
  · rintro ⟨z, hz, ht⟩
    rw [ht]
    exact congrArg (· :: []) ((toLower_eq_iff (by decide)).mpr hz)
  · intro h
    obtain ⟨u, _, ht, hu, h⟩ := List.map_eq_cons_iff.mp h
    obtain ⟨v, _, rfl, hv, h⟩ := List.map_eq_cons_iff.mp h
    obtain ⟨c, rfl, hc⟩ := List.map_eq_singleton_iff.mp h
    exact ⟨u, (toLower_eq_iff (by decide)).mp hu, v, (toLower_eq_iff (by decide)).mp hv, c,
      (toLower_eq_iff (by decide)).mp hc, ht⟩
  · rintro ⟨u, hu, v, hv, c, hc, ht⟩
    have hsmall : [u.toLower, v.toLower, c.toLower] = ['u', 't', 'c'] := by
      rw [(toLower_eq_iff (d := 'u') (by decide)).mpr hu, (toLower_eq_iff (d := 't') (by decide)).mpr hv,
        (toLower_eq_iff (d := 'c') (by decide)).mpr hc]
    rw [ht]
    exact hsmall

/-! ## Hours and minutes -/

/-- **Hours and minutes are read exactly from two pairs of digits**, wherever colons stand among them. -/
theorem parseShift_eq_some_iff {s : List Char} {k : Int} :
    parseShift s = some k ↔ ∃ hours minutes, hours ≤ 99 ∧ minutes ≤ 99 ∧
      s.filter (· != ':') = padded 2 hours ++ padded 2 minutes ∧
      k = (hours * 3600 + minutes * 60 : Nat) := by
  unfold parseShift
  constructor
  · intro h
    split at h
    · next a b c d hfilter =>
      split at h
      · next hdigits =>
        simp only [List.all_cons, List.all_nil, Bool.and_eq_true, Bool.and_true] at hdigits
        obtain ⟨ha, hb, hc, hd⟩ := hdigits
        obtain ⟨hhours, hfirst⟩ := pair_eq_padded ha hb
        obtain ⟨hminutes, hsecond⟩ := pair_eq_padded hc hd
        refine ⟨_, _, hhours, hminutes, ?_, (Option.some.inj h).symm⟩
        rw [hfilter, ← hfirst, ← hsecond]
        rfl
      · cases h
    · cases h
  · rintro ⟨hours, minutes, hhours, hminutes, hfilter, rfl⟩
    obtain ⟨a, b, hfirst, ha, hb, hhour⟩ := exists_pair hhours
    obtain ⟨c, d, hsecond, hc, hd, hminute⟩ := exists_pair hminutes
    rw [hfilter, hfirst, hsecond]
    show (if [a, b, c, d].all Char.isDigit then
      some ((value [a, b] * 3600 + value [c, d] * 60 : Nat) : Int) else none) = _
    rw [if_pos (by simp [ha, hb, hc, hd]), hhour, hminute]

/-! ## Signs -/

/-- A sign with hours and minutes behind it, among whose digits colons stand anywhere. -/
structure Spells (t : List Char) (sign : Char × Int) (hours minutes : Nat) : Prop where
  signed : sign ∈ signs
  hour : hours ≤ 99
  minute : minutes ≤ 99
  digits : ∃ rest, t = sign.1 :: rest ∧ rest.filter (· != ':') = padded 2 hours ++ padded 2 minutes

variable {t : List Char} {sign : Char × Int} {hours minutes : Nat}

/-- Both ways to write an offset neatly spell it. -/
theorem Neat.spells (h : Neat t sign hours minutes) (signed : sign ∈ signs) (hour : hours ≤ 99)
    (minute : minutes ≤ 99) : Spells t sign hours minutes := by
  refine ⟨signed, hour, minute, ?_⟩
  rcases h with h | h
  · exact ⟨_, h, by rw [List.filter_append, filter_padded, filter_padded]⟩
  · refine ⟨_, h, ?_⟩
    rw [List.filter_append, filter_padded, List.filter_cons_of_neg (by decide), filter_padded]

/-- The two signs differ. -/
theorem sign_ext {sign' : Char × Int} (h : sign ∈ signs) (h' : sign' ∈ signs) (heq : sign.1 = sign'.1) :
    sign = sign' := by
  have hall : ∀ s ∈ signs, ∀ s' ∈ signs, s.1 = s'.1 → s = s' := by decide
  exact hall sign h sign' h' heq

/-- **A text spells one offset.** -/
theorem Spells.unique {sign' : Char × Int} {hours' minutes' : Nat} (h : Spells t sign hours minutes)
    (h' : Spells t sign' hours' minutes') : sign = sign' ∧ hours = hours' ∧ minutes = minutes' := by
  obtain ⟨signed, hour, minute, rest, rfl, hrest⟩ := h
  obtain ⟨signed', hour', minute', rest', ht, hrest'⟩ := h'
  obtain ⟨hsign, rfl⟩ := List.cons.inj ht
  have hlength : (padded 2 hours).length = (padded 2 hours').length := by
    rw [length_padded (by decide) (by omega), length_padded (by decide) (by omega)]
  obtain ⟨hhours, hminutes⟩ := List.append_inj (hrest.symm.trans hrest') hlength
  refine ⟨sign_ext signed signed' hsign, ?_, ?_⟩
  · rw [← value_padded 2 hours, hhours, value_padded]
  · rw [← value_padded 2 minutes, hminutes, value_padded]

/-- A name of UTC has no sign in front. -/
theorem NamesUtc.not_signed (h : NamesUtc t) (signed : sign ∈ signs) (rest : List Char) :
    t ≠ sign.1 :: rest := by
  have hapart : ∀ sign ∈ signs, sign.1 ∉ ['z', 'Z'] ∧ sign.1 ∉ ['u', 'U'] := by decide
  intro ht
  rcases h with ⟨z, hz, hname⟩ | ⟨u, hu, v, -, c, -, hname⟩
  · obtain rfl := (List.cons.inj (hname.symm.trans ht)).1
    exact (hapart sign signed).1 hz
  · obtain rfl := (List.cons.inj (hname.symm.trans ht)).1
    exact (hapart sign signed).2 hu

/-! ## What is read -/

/-- An offset is less than a day either way. -/
theorem seconds_of?_iff {k seconds : Int} :
    (Offset.of? k).map (·.seconds) = some seconds ↔ (-86400 < k ∧ k < 86400) ∧ seconds = k := by
  unfold Offset.of?
  by_cases h : -86400 < k ∧ k < 86400
  · rw [dif_pos h]
    simp [h, eq_comm]
  · rw [dif_neg h]
    simp [h]

/-- Behind a sign, hours and minutes are read. -/
theorem parseOffset_signed {raw : String} {rest : List Char} (signed : sign ∈ signs)
    (h : (trim raw).toList = sign.1 :: rest) :
    parseOffset raw = (parseShift rest).bind fun shift => Offset.of? (sign.2 * shift) := by
  have hother : ¬ (lowerAscii (trim raw) = "z" ∨ lowerAscii (trim raw) = "utc") := fun hname =>
    ((namesUtc_iff (trim raw)).mp hname).not_signed signed rest h
  unfold parseOffset
  dsimp only
  rw [if_neg hother, h]
  simp only [signs, List.mem_cons, List.not_mem_nil, or_false] at signed
  rcases signed with rfl | rfl
  · simp only [Int.one_mul]
  · simp only [Int.neg_one_mul]

/-- Nothing is read of a text that neither names UTC nor has a sign. -/
theorem parseOffset_unsigned {raw : String} (hname : ¬ NamesUtc (trim raw).toList)
    (h : ∀ sign ∈ signs, ∀ rest, (trim raw).toList ≠ sign.1 :: rest) : parseOffset raw = none := by
  unfold parseOffset
  dsimp only
  rw [if_neg (mt (namesUtc_iff (trim raw)).mp hname)]
  split
  · next rest hrest => exact absurd hrest (h ('+', 1) (by decide) rest)
  · next rest hrest => exact absurd hrest (h ('-', -1) (by decide) rest)
  · rfl

/-- Hours and minutes behind a sign are read exactly if they are less than a day. -/
theorem shift_seconds_iff {rest : List Char} {k : Int} (signed : sign ∈ signs) :
    ((parseShift rest).bind fun shift => Offset.of? (sign.2 * shift)).map (·.seconds) = some k ↔
      ∃ hours minutes, hours ≤ 99 ∧ minutes ≤ 99 ∧
        rest.filter (· != ':') = padded 2 hours ++ padded 2 minutes ∧
        hours * 3600 + minutes * 60 < 86400 ∧ k = sign.2 * (hours * 3600 + minutes * 60 : Nat) := by
  have hsign : sign.2 = 1 ∨ sign.2 = -1 := by
    have hall : ∀ s ∈ signs, s.2 = 1 ∨ s.2 = -1 := by decide
    exact hall sign signed
  have hday : ∀ n : Nat, (-86400 < sign.2 * (n : Int) ∧ sign.2 * (n : Int) < 86400) ↔ n < 86400 := by
    intro n
    rcases hsign with h | h <;> rw [h] <;> omega
  constructor
  · intro h
    obtain ⟨o, hread, hk⟩ := Option.map_eq_some_iff.mp h
    obtain ⟨shift, hshift, ho⟩ := Option.bind_eq_some_iff.mp hread
    obtain ⟨hours, minutes, hour, minute, hdigits, rfl⟩ := parseShift_eq_some_iff.mp hshift
    obtain ⟨hwithin, hk⟩ := seconds_of?_iff.mp (Option.map_eq_some_iff.mpr ⟨o, ho, hk⟩)
    exact ⟨hours, minutes, hour, minute, hdigits, (hday _).mp hwithin, hk⟩
  · rintro ⟨hours, minutes, hour, minute, hdigits, hwithin, hk⟩
    rw [parseShift_eq_some_iff.mpr ⟨hours, minutes, hour, minute, hdigits, rfl⟩]
    exact seconds_of?_iff.mpr ⟨(hday _).mpr hwithin, hk⟩

/-- **What is read as an offset, and as which**: a name of UTC, and a sign with hours and minutes that are
less than a day, wherever colons stand among their digits. -/
theorem parseOffset_seconds_iff {raw : String} {k : Int} :
    (parseOffset raw).map (·.seconds) = some k ↔
      NamesUtc (trim raw).toList ∧ k = 0 ∨
      ∃ sign hours minutes, Spells (trim raw).toList sign hours minutes ∧
        hours * 3600 + minutes * 60 < 86400 ∧ k = sign.2 * (hours * 3600 + minutes * 60 : Nat) := by
  by_cases hname : NamesUtc (trim raw).toList
  · have hread : parseOffset raw = some Offset.utc := by
      unfold parseOffset
      dsimp only
      rw [if_pos ((namesUtc_iff (trim raw)).mpr hname)]
    rw [hread]
    constructor
    · exact fun h => .inl ⟨hname, (Option.some.inj h).symm⟩
    · rintro (⟨-, rfl⟩ | ⟨sign, _, _, ⟨signed, -, -, rest, ht, -⟩, -⟩)
      · rfl
      · exact absurd ht (hname.not_signed signed rest)
  · by_cases hsign : ∃ sign ∈ signs, ∃ rest, (trim raw).toList = sign.1 :: rest
    · obtain ⟨sign, signed, rest, ht⟩ := hsign
      rw [parseOffset_signed signed ht, shift_seconds_iff signed]
      constructor
      · rintro ⟨hours, minutes, hour, minute, hdigits, hread⟩
        exact .inr ⟨sign, hours, minutes, ⟨signed, hour, minute, rest, ht, hdigits⟩, hread⟩
      · rintro (⟨hutc, -⟩ | ⟨sign', hours, minutes, ⟨signed', hour, minute, rest', ht', hdigits⟩, hread⟩)
        · exact absurd hutc hname
        · -- the sign and what is behind it are the same
          obtain ⟨hfirst, rfl⟩ := List.cons.inj (ht.symm.trans ht')
          obtain rfl := sign_ext signed signed' hfirst
          exact ⟨hours, minutes, hour, minute, hdigits, hread⟩
    · have hunsigned : ∀ sign ∈ signs, ∀ rest, (trim raw).toList ≠ sign.1 :: rest :=
        fun sign signed rest ht => hsign ⟨sign, signed, rest, ht⟩
      rw [parseOffset_unsigned hname hunsigned]
      refine iff_of_false nofun ?_
      rintro (⟨hutc, -⟩ | ⟨sign, _, _, ⟨signed, -, -, rest, ht, -⟩, -⟩)
      · exact hname hutc
      · exact hunsigned sign signed rest ht

/-- **What is not read as an offset is a fault of the variable**, and nothing else is. -/
theorem read_error_iff {env : Environment} {raw : String} (systemOffset : Offset)
    (h : env.get? "LOCAL_UTC_OFFSET" = some raw) :
    Settings.read env systemOffset = .error ⟨"LOCAL_UTC_OFFSET", raw⟩ ↔ parseOffset raw = none := by
  have hname : "SEARCH_RADIUS_KM" ≠ "LOCAL_UTC_OFFSET" := by decide
  unfold Settings.read
  rw [h]
  dsimp only [bind, Except.bind]
  cases parseOffset raw with
  | none => exact iff_of_true rfl rfl
  | some o =>
    -- a fault that is met behind the offset is one of the radius
    dsimp only [Option.elim_some]
    refine iff_of_false (fun herror => ?_) nofun
    split at herror
    · cases herror
    · split at herror
      · cases herror
      · exact hname (congrArg SettingsFault.name (Except.error.inj herror))

/-! ## Documented forms -/

/-- **A documented text spells nothing that is not neat.** -/
theorem Documented.of_spells {k : Int} (h : Documented t k) (spelled : Spells t sign hours minutes) :
    minutes ≤ 59 ∧ Neat t sign hours minutes := by
  cases h with
  | utc named =>
    obtain ⟨signed, -, -, rest, ht, -⟩ := spelled
    exact absurd ht (named.not_signed signed rest)
  | shift signed neat hour minute =>
    obtain ⟨rfl, rfl, rfl⟩ := (neat.spells signed (by omega) (by omega)).unique spelled
    exact ⟨minute, neat⟩

/-- **Whatever is documented is read as what it says.** -/
theorem Documented.seconds {raw : String} {k : Int} (h : Documented (trim raw).toList k) :
    (parseOffset raw).map (·.seconds) = some k := by
  rw [parseOffset_seconds_iff]
  cases h with
  | utc named => exact .inl ⟨named, rfl⟩
  | shift signed neat hour minute =>
    exact .inr ⟨_, _, _, neat.spells signed (by omega) (by omega), by omega, rfl⟩

/-- **An offset is read in its documented forms alone exactly if it is not written loosely.** What is read of
a text is what the documented forms say of it, if and only if a sign with four digits, as far as they make
less than a day, has no more than 59 minutes and no colon but one in the middle. Whatever is documented is
read; besides, a sign with four digits that make less than a day is read wherever colons stand among them,
and nothing else is. A text that is not read is a fault of the variable, with the text as it was. -/
theorem offsets_are_documented_iff (raw : String) :
    ((∀ k, (parseOffset raw).map (·.seconds) = some k ↔ Documented (trim raw).toList k) ↔
      ∀ sign hours minutes, Spells (trim raw).toList sign hours minutes →
        hours * 3600 + minutes * 60 < 86400 → minutes ≤ 59 ∧ Neat (trim raw).toList sign hours minutes) ∧
    (∀ k, Documented (trim raw).toList k → (parseOffset raw).map (·.seconds) = some k) ∧
    (∀ k, (parseOffset raw).map (·.seconds) = some k ↔
      NamesUtc (trim raw).toList ∧ k = 0 ∨
      ∃ sign hours minutes, Spells (trim raw).toList sign hours minutes ∧
        hours * 3600 + minutes * 60 < 86400 ∧ k = sign.2 * (hours * 3600 + minutes * 60 : Nat)) ∧
    ∀ env systemOffset, env.get? "LOCAL_UTC_OFFSET" = some raw →
      (Settings.read env systemOffset = .error ⟨"LOCAL_UTC_OFFSET", raw⟩ ↔ parseOffset raw = none) := by
  refine ⟨⟨?_, ?_⟩, fun _ => Documented.seconds, fun _ => parseOffset_seconds_iff,
    fun _ => read_error_iff⟩
  · intro hall sign hours minutes spelled hday
    have hread := parseOffset_seconds_iff.mpr (.inr ⟨sign, hours, minutes, spelled, hday, rfl⟩)
    exact ((hall _).mp hread).of_spells spelled
  · intro hneat k
    refine ⟨fun hread => ?_, Documented.seconds⟩
    rcases parseOffset_seconds_iff.mp hread with ⟨named, rfl⟩ | ⟨sign, hours, minutes, spelled, hday, rfl⟩
    · exact .utc named
    · obtain ⟨minute, neat⟩ := hneat sign hours minutes spelled hday
      exact .shift spelled.signed neat (by omega) minute

/-- An offset between blanks is read as documented, and a word is a fault. -/
theorem offsets_are_documented_iff_blanks :
    (∀ sign hours minutes, Spells (trim " -03:30\n").toList sign hours minutes →
      hours * 3600 + minutes * 60 < 86400 → minutes ≤ 59 ∧ Neat (trim " -03:30\n").toList sign hours minutes) ∧
    (parseOffset " -03:30\n").map (·.seconds) = some (-12600) ∧
    Documented (trim " -03:30\n").toList (-12600) ∧
    (SortedMap.ofList [("LOCAL_UTC_OFFSET", "nine")]).get? "LOCAL_UTC_OFFSET" = some "nine" ∧
    Settings.read (.ofList [("LOCAL_UTC_OFFSET", "nine")]) Offset.korea =
      .error ⟨"LOCAL_UTC_OFFSET", "nine"⟩ := by
  have hneat : Neat (trim " -03:30\n").toList ('-', -1) 3 30 := by
    unfold Neat
    rw [padded_pair (by decide), padded_pair (by decide)]
    decide
  have hdocumented : Documented (trim " -03:30\n").toList (-12600) :=
    .shift (by decide) hneat (by decide) (by decide)
  have hspelled : ∀ sign hours minutes, Spells (trim " -03:30\n").toList sign hours minutes →
      hours * 3600 + minutes * 60 < 86400 → minutes ≤ 59 ∧ Neat (trim " -03:30\n").toList sign hours minutes :=
    fun _ _ _ spelled _ => hdocumented.of_spells spelled
  have hseconds := ((offsets_are_documented_iff " -03:30\n").1.mpr hspelled (-12600)).mpr hdocumented
  have hnine : (SortedMap.ofList [("LOCAL_UTC_OFFSET", "nine")]).get? "LOCAL_UTC_OFFSET" = some "nine" := by
    decide
  exact ⟨hspelled, hseconds, hdocumented, hnine,
    ((offsets_are_documented_iff "nine").2.2.2 _ Offset.korea hnine).mpr (by decide)⟩

/-- **Colons among the digits and hours with more than sixty minutes are read**, although no document has
such offsets. -/
theorem stray_colons_are_read :
    (parseOffset "+0:9:0:0").map (·.seconds) = some 32400 ∧
    ¬ Documented (trim "+0:9:0:0").toList 32400 ∧
    (parseOffset "+12:75").map (·.seconds) = some 47700 ∧
    ¬ Documented (trim "+12:75").toList 47700 := by
  have hcolons : Spells (trim "+0:9:0:0").toList ('+', 1) 9 0 := by
    refine ⟨by decide, by decide, by decide, "0:9:0:0".toList, by decide, ?_⟩
    rw [padded_pair (by decide), padded_pair (by decide)]
    decide
  have hminutes : Spells (trim "+12:75").toList ('+', 1) 12 75 := by
    refine ⟨by decide, by decide, by decide, "12:75".toList, by decide, ?_⟩
    rw [padded_pair (by decide), padded_pair (by decide)]
    decide
  refine ⟨by decide, fun h => ?_, by decide, fun h => absurd (h.of_spells hminutes).1 (by decide)⟩
  have hneat := (h.of_spells hcolons).2
  unfold Neat at hneat
  rw [padded_pair (by decide), padded_pair (by decide)] at hneat
  revert hneat
  decide

end Shoreline.OffsetText
