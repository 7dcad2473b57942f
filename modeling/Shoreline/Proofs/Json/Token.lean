import Mathlib.Algebra.Group.Int.Defs
import Mathlib.Data.List.TakeDrop
import Shoreline.Json.Reader

/-!
# `Shoreline.Proofs.Json.Token` — strings and whole numbers are read back

What a value is written with: a string between its quotes, and a whole number of 64 bits. Each lemma
lets anything stand behind the token that cannot belong to it, so that whole documents can be put
together from them.

## Contents
- `readString_quote`: a quoted text is read back.
- `Ends`: what may stand behind a number; `readNumber_signed`.
-/

namespace Shoreline.Json

open Decimal Text

/-! ## Strings -/

/-- A piece stands for a character: as it is, or as a unit if it is a control character. -/
def Piece.StandsFor (p : Piece) (c : Char) : Prop :=
  p = .char c ∨ p = .unit c.toNat ∧ c.toNat < 32

/-- Four digits of which two are zero make the number of the other two. -/
theorem hexUnit?_control {n : Nat} (h : n < 32) :
    hexUnit? '0' '0' (hexDigit (n / 16)) (hexDigit (n % 16)) = some n := by
  have hzero : hexValue? '0' = some 0 := by decide
  have hhigh := (hexValue?_digit (n / 16) (by omega)).1
  have hlow := (hexValue?_digit (n % 16) (by omega)).1
  unfold hexUnit?
  simp only [hzero, hhigh, hlow]
  refine congrArg some ?_
  omega

/-- An escape of one letter is read as the character that it stands for. -/
theorem readPieces_escape {e c : Char} (h : escaped? e = some c) (hu : e ≠ 'u')
    (rest : List Char) :
    readPieces ('\\' :: e :: rest) = (readPieces rest).map fun r => (.char c :: r.1, r.2) := by
  rw [readPieces.eq_def]
  split
  · next heq => cases heq
  · next heq => cases heq
  · next heq =>
    obtain ⟨rfl, _⟩ := List.cons.inj (List.cons.inj heq).2
    exact absurd rfl hu
  · next heq =>
    obtain ⟨rfl, rfl⟩ := List.cons.inj (List.cons.inj heq).2
    simp only [h]
  · next hesc heq =>
    obtain ⟨rfl, rfl⟩ := List.cons.inj heq
    exact absurd rfl (hesc e rest rfl)

/-- A character that needs no escape is read as it is. -/
theorem readPieces_plain {c : Char} (hquote : c ≠ '"') (hslash : c ≠ '\\') (h : ¬ c.toNat < 32)
    (rest : List Char) :
    readPieces (c :: rest) = (readPieces rest).map fun r => (.char c :: r.1, r.2) := by
  rw [readPieces.eq_def]
  split
  · next heq => cases heq
  · next heq => exact absurd (List.cons.inj heq).1 hquote
  · next heq => exact absurd (List.cons.inj heq).1 hslash
  · next heq => exact absurd (List.cons.inj heq).1 hslash
  · next heq =>
    obtain ⟨rfl, rfl⟩ := List.cons.inj heq
    rw [if_neg h]

/-- A control character is read as a unit. -/
theorem readPieces_control {n : Nat} (h : n < 32) (rest : List Char) :
    readPieces ('\\' :: 'u' :: '0' :: '0' :: hexDigit (n / 16) :: hexDigit (n % 16) :: rest) =
      (readPieces rest).map fun r => (.unit n :: r.1, r.2) := by
  rw [readPieces, hexUnit?_control h]

/-- One character, escaped or not, is read as one piece. -/
theorem readPieces_escapeChar (c : Char) :
    ∃ p : Piece, p.StandsFor c ∧
      ∀ rest, readPieces (Value.escapeChar c ++ rest) =
        (readPieces rest).map fun r => (p :: r.1, r.2) := by
  -- two escapes are chosen by number, the others by the character itself
  have heq : ∀ n, c.toNat = n → c = Char.ofNat n := by
    rintro _ rfl
    exact (Char.ofNat_toNat c).symm
  unfold Value.escapeChar
  split
  · next h =>
    subst h
    exact ⟨_, Or.inl rfl, readPieces_escape rfl (by decide)⟩
  split
  · next h =>
    subst h
    exact ⟨_, Or.inl rfl, readPieces_escape rfl (by decide)⟩
  split
  · next h =>
    subst h
    exact ⟨_, Or.inl rfl, readPieces_escape rfl (by decide)⟩
  split
  · next h =>
    subst h
    exact ⟨_, Or.inl rfl, readPieces_escape rfl (by decide)⟩
  split
  · next h =>
    subst h
    exact ⟨_, Or.inl rfl, readPieces_escape rfl (by decide)⟩
  split
  · next h =>
    obtain rfl := heq 8 h
    exact ⟨_, Or.inl rfl, readPieces_escape rfl (by decide)⟩
  split
  · next h =>
    obtain rfl := heq 12 h
    exact ⟨_, Or.inl rfl, readPieces_escape rfl (by decide)⟩
  split
  · next h => exact ⟨.unit c.toNat, Or.inr ⟨rfl, h⟩, readPieces_control h⟩
  · next hquote hslash _ _ _ _ _ h =>
    exact ⟨.char c, Or.inl rfl, readPieces_plain hquote hslash h⟩

/-- A unit below the surrogates is a character, whatever stands behind it. -/
theorem joinPieces_unit {n : Nat} (h : n < 32) (ps : List Piece) :
    joinPieces (.unit n :: ps) = (joinPieces ps).map (Char.ofNat n :: ·) := by
  have hhigh : isHighHalf n = false := by
    unfold isHighHalf
    simp only [Bool.and_eq_false_iff, decide_eq_false_iff_not]
    left
    omega
  have hlow : isLowHalf n = false := by
    unfold isLowHalf
    simp only [Bool.and_eq_false_iff, decide_eq_false_iff_not]
    left
    omega
  -- a unit looks at the piece behind it, in case that is its other half
  cases ps with
  | nil => simp [joinPieces, hhigh, hlow]
  | cons p ps => cases p <;> simp [joinPieces, hhigh, hlow]

/-- The characters of a text, escaped or not, are read up to the closing quote. -/
theorem readPieces_escaped (cs rest : List Char) :
    ∃ ps, readPieces (cs.flatMap Value.escapeChar ++ '"' :: rest) = some (ps, rest) ∧
      joinPieces ps = some cs := by
  induction cs with
  | nil => exact ⟨[], by simp [readPieces], rfl⟩
  | cons c cs ih =>
    obtain ⟨ps, hread, hjoin⟩ := ih
    obtain ⟨p, hp, hpiece⟩ := readPieces_escapeChar c
    refine ⟨p :: ps, ?_, ?_⟩
    · rw [List.flatMap_cons, List.append_assoc, hpiece, hread]
      rfl
    · rcases hp with rfl | ⟨rfl, hsmall⟩
      · rw [joinPieces, hjoin]
        rfl
      · rw [joinPieces_unit hsmall, hjoin, Char.ofNat_toNat]
        rfl

/-- **A quoted text is read back.** -/
theorem readString_quote (s : String) (rest : List Char) :
    readString (s.toList.flatMap Value.escapeChar ++ '"' :: rest) = some (some s, rest) := by
  obtain ⟨ps, hread, hjoin⟩ := readPieces_escaped s.toList rest
  unfold readString
  rw [hread]
  simp only [Option.map_some, hjoin, String.ofList_toList]

/-! ## Whole numbers -/

/-- What stands here does not belong to a number. -/
def Ends (rest : List Char) : Prop :=
  ∀ c ∈ rest.head?, c.isDigit = false ∧ c ≠ '.' ∧ c ≠ 'e' ∧ c ≠ 'E'

theorem ends_nil : Ends [] := by
  intro c h
  cases h

/-- Digits are read as far as they go. -/
theorem spanDigits_append {ds rest : List Char} (h : ∀ c ∈ ds, c.isDigit = true)
    (hrest : Ends rest) : spanDigits (ds ++ rest) = (ds, rest) := by
  unfold spanDigits
  rw [List.span_eq_takeWhile_dropWhile]
  have htake : (ds ++ rest).takeWhile Char.isDigit = ds := by
    rw [List.takeWhile_append_of_pos h]
    cases rest with
    | nil => simp
    | cons c rest =>
      have hc := (hrest c rfl).1
      simp [hc]
  have hdrop : (ds ++ rest).dropWhile Char.isDigit = rest := by
    rw [List.dropWhile_append_of_pos h]
    cases rest with
    | nil => rfl
    | cons c rest =>
      have hc := (hrest c rfl).1
      simp [hc]
  rw [htake, hdrop]

/-- Only the numeral of zero begins with zero. -/
theorem numeral_head (n : Nat) : ∃ d ds, numeral n = d :: ds ∧ (d = '0' → n = 0) := by
  induction n using Nat.strongRecOn with
  | _ n ih =>
    rw [numeral]
    split
    · next h =>
      refine ⟨digitChar n, [], rfl, fun he => ?_⟩
      have hzero := congrArg digitValue he
      rw [digitValue_digitChar h] at hzero
      exact hzero
    · next h =>
      obtain ⟨d, ds, hds, hd⟩ := ih (n / 10) (by omega)
      refine ⟨d, ds ++ [digitChar (n % 10)], by rw [hds]; rfl, fun he => ?_⟩
      have := hd he
      omega

/-- A numeral is read whole. -/
theorem readWhole_numeral (n : Nat) {rest : List Char} (hrest : Ends rest) :
    readWhole (numeral n ++ rest) = some (numeral n, rest) := by
  unfold readWhole
  rw [spanDigits_append (fun _ hc => isDigit_of_mem_numeral hc) hrest]
  split
  · next h => exact absurd (Prod.mk.inj h).1 (numeral_ne_nil n)
  · next c cs _ h =>
    -- a numeral that begins with zero has no further digit
    have hlong : numeral n = '0' :: c :: cs := (Prod.mk.inj h).1
    obtain ⟨d, ds, hds, hd⟩ := numeral_head n
    have hzero : d = '0' := (List.cons.inj (hds.symm.trans hlong)).1
    rw [hd hzero, numeral, if_pos (by decide)] at hlong
    cases hlong
  · rfl

theorem readFraction_ends {rest : List Char} (hrest : Ends rest) :
    readFraction rest = some ([], rest) := by
  unfold readFraction
  split
  · exact absurd rfl (hrest '.' rfl).2.1
  · rfl

theorem readExponent_ends {rest : List Char} (hrest : Ends rest) :
    readExponent rest = some (none, rest) := by
  cases rest with
  | nil => rfl
  | cons c rest =>
    obtain ⟨_, _, he, hE⟩ := hrest c rfl
    have hne : ¬ (c = 'e' ∨ c = 'E') := not_or.mpr ⟨he, hE⟩
    simp only [readExponent, if_neg hne]

/-- The whole numbers that 64 bits hold, with or without sign. -/
def IsWord (i : Int) : Prop := -(2 ^ 63) ≤ i ∧ i < 2 ^ 64

/-- The value of a whole number of 64 bits is that number. -/
theorem value?_signed {i : Int} (h : IsWord i) :
    Lexeme.value? ⟨decide (i < 0), numeral i.natAbs, [], none⟩ = some (.int i) := by
  obtain ⟨hleast, hgreatest⟩ := h
  unfold Lexeme.value? maxWord
  simp only [List.isEmpty_nil, Option.isNone_none, Bool.and_self, if_true, value_numeral,
    decide_eq_true_eq]
  -- zero is written without a sign, so a negative number has a magnitude above zero
  by_cases hneg : i < 0
  · rw [if_pos hneg, if_pos (by omega)]
    refine congrArg (some ∘ Number.int) ?_
    omega
  · rw [if_neg hneg, if_pos (by omega)]
    refine congrArg (some ∘ Number.int) ?_
    omega

/-- **A whole number of 64 bits is read back.** -/
theorem readNumber_signed {i : Int} (h : IsWord i) {rest : List Char} (hrest : Ends rest) :
    readNumber (signed i ++ rest) = some (some (.int i), rest) := by
  have hwhole := readWhole_numeral i.natAbs hrest
  have hvalue := value?_signed h
  unfold readNumber signed
  by_cases hneg : i < 0
  · rw [decide_eq_true hneg] at hvalue
    simp only [if_pos hneg, List.cons_append, hwhole, readFraction_ends hrest,
      readExponent_ends hrest, Option.bind_eq_bind, Option.bind_some, hvalue]
  · rw [decide_eq_false hneg] at hvalue
    obtain ⟨d, ds, hds, _⟩ := numeral_head i.natAbs
    have hdigit : d.isDigit = true := by
      refine isDigit_of_mem_numeral (n := i.natAbs) ?_
      rw [hds]
      exact List.mem_cons_self
    have hsign : d ≠ '-' := by
      rintro rfl
      exact absurd hdigit (by decide)
    rw [hds] at hwhole hvalue ⊢
    simp only [if_neg hneg, List.cons_append] at hwhole ⊢
    split
    · next hminus => exact absurd (List.cons.inj hminus).1 hsign
    · simp only [hwhole, readFraction_ends hrest, readExponent_ends hrest, Option.bind_eq_bind,
        Option.bind_some, hvalue]

end Shoreline.Json
