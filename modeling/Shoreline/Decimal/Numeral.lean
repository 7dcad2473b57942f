/-!
# `Shoreline.Decimal.Numeral` — whole numbers in decimal digits

Writing and reading whole numbers. `numeral` writes a natural number without leading zeros and
`value` reads digits of any length; `value_numeral` says that reading undoes writing. The readers
for texts (`natural?`, `integer?`) accept digits only, `integer?` after an optional sign.

## Contents
- `numeral`, `signed`, `padded`: writing.
- `value`, `natural?`, `integer?`: reading.
-/

namespace Shoreline.Decimal

/-- The digit of a number below ten. -/
def digitChar (d : Nat) : Char := Char.ofNat (48 + d)

/-- The number of a digit. -/
def digitValue (c : Char) : Nat := c.toNat - 48

theorem toNat_digitChar {d : Nat} (h : d < 10) : (digitChar d).toNat = 48 + d := by
  have hv : (48 + d).isValidChar := Or.inl (by omega)
  unfold digitChar Char.ofNat
  rw [dif_pos hv]
  show (UInt32.ofNatLT (48 + d) _).toNat = 48 + d
  exact UInt32.toNat_ofNatLT

theorem digitValue_digitChar {d : Nat} (h : d < 10) : digitValue (digitChar d) = d := by
  rw [digitValue, toNat_digitChar h]
  omega

theorem isDigit_digitChar {d : Nat} (h : d < 10) : (digitChar d).isDigit = true := by
  have hn := toNat_digitChar h
  have h48 : '0'.toNat ≤ (digitChar d).toNat := by
    rw [hn]
    exact Nat.le_add_right 48 d
  have h57 : (digitChar d).toNat ≤ '9'.toNat := by
    rw [hn]
    show 48 + d ≤ 57
    omega
  simp only [Char.isDigit, Bool.and_eq_true, decide_eq_true_eq]
  exact ⟨h48, h57⟩

/-! ## Writing -/

/-- A natural number in decimal digits, without leading zeros. -/
def numeral (n : Nat) : List Char :=
  if n < 10 then [digitChar n] else numeral (n / 10) ++ [digitChar (n % 10)]
termination_by n

/-- An integer: its magnitude, after a minus sign when it is negative. -/
def signed (i : Int) : List Char :=
  if i < 0 then '-' :: numeral i.natAbs else numeral i.natAbs

/-- A natural number with leading zeros up to a width. -/
def padded (width n : Nat) : List Char :=
  List.replicate (width - (numeral n).length) '0' ++ numeral n

/-! ## Reading -/

/-- The number that decimal digits stand for. -/
def value (s : List Char) : Nat := s.foldl (fun v c => 10 * v + digitValue c) 0

theorem value_concat (s : List Char) (c : Char) : value (s ++ [c]) = 10 * value s + digitValue c := by
  simp [value]

/-- **Reading undoes writing.** -/
theorem value_numeral (n : Nat) : value (numeral n) = n := by
  induction n using Nat.strongRecOn with
  | _ n ih =>
    rw [numeral]
    split
    · next h => simp [value, digitValue_digitChar h]
    · next h =>
      rw [value_concat, ih (n / 10) (by omega), digitValue_digitChar (by omega)]
      omega

/-- A numeral consists of digits. -/
theorem isDigit_of_mem_numeral {n : Nat} {c : Char} (h : c ∈ numeral n) : c.isDigit = true := by
  induction n using Nat.strongRecOn with
  | _ n ih =>
    rw [numeral] at h
    split at h
    · next hn =>
      rw [List.mem_singleton.mp h]
      exact isDigit_digitChar hn
    · next hn =>
      rcases List.mem_append.mp h with h | h
      · exact ih (n / 10) (by omega) h
      · rw [List.mem_singleton.mp h]
        exact isDigit_digitChar (by omega)

theorem numeral_ne_nil (n : Nat) : numeral n ≠ [] := by
  rw [numeral]
  split <;> simp

/-- A text of one or more digits. -/
def natural? (s : List Char) : Option Nat :=
  if s.isEmpty || !s.all Char.isDigit then none else some (value s)

/-- **Every numeral is read back.** -/
theorem natural?_numeral (n : Nat) : natural? (numeral n) = some n := by
  have hall : (numeral n).all Char.isDigit = true :=
    List.all_eq_true.mpr (fun _ hc => isDigit_of_mem_numeral hc)
  simp [natural?, hall, value_numeral, List.isEmpty_iff, numeral_ne_nil]

/-- A text of one or more digits, with or without a sign in front. -/
def integer? : List Char → Option Int
  | '-' :: s => (natural? s).map (fun n => -(n : Int))
  | '+' :: s => (natural? s).map Int.ofNat
  | s => (natural? s).map Int.ofNat

/-- **Every integer is read back.** -/
theorem integer?_signed (i : Int) : integer? (signed i) = some i := by
  unfold signed
  split
  · next hneg =>
    rw [integer?, natural?_numeral]
    show some (-(i.natAbs : Int)) = some i
    rw [Int.ofNat_natAbs_of_nonpos (Int.le_of_lt hneg), Int.neg_neg]
  · next hnonneg =>
    have hread : (natural? (numeral i.natAbs)).map Int.ofNat = some i := by
      rw [natural?_numeral, Option.map_some]
      exact congrArg some (Int.natAbs_of_nonneg (Int.not_lt.mp hnonneg))
    -- the first character is a digit, so it is not taken for a sign
    obtain ⟨d, ds, hds⟩ := List.exists_cons_of_ne_nil (numeral_ne_nil i.natAbs)
    have hd : d.isDigit = true := isDigit_of_mem_numeral (hds ▸ List.mem_cons_self)
    rw [hds] at hread ⊢
    unfold integer?
    split
    · next r h => exact absurd hd (by rw [(List.cons.inj h).1]; decide)
    · next r h => exact absurd hd (by rw [(List.cons.inj h).1]; decide)
    · exact hread

/-- The longest beginning of digits, and what follows it. -/
def spanDigits (s : List Char) : List Char × List Char := s.span Char.isDigit

end Shoreline.Decimal
