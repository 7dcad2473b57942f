/-!
# `Shoreline.Text.Hex` — hexadecimal digits

Escapes in JSON texts and in addresses are written in hexadecimal digits. Both cases of the letters
are read; JSON texts are written in small letters and addresses in capitals.
-/

namespace Shoreline.Text

/-- The number of a hexadecimal digit. -/
def hexValue? (c : Char) : Option Nat :=
  if '0' ≤ c ∧ c ≤ '9' then some (c.toNat - 48)
  else if 'a' ≤ c ∧ c ≤ 'f' then some (c.toNat - 87)
  else if 'A' ≤ c ∧ c ≤ 'F' then some (c.toNat - 55)
  else none

/-- The lower-case hexadecimal digit of a number below sixteen. -/
def hexDigit (n : Nat) : Char := if n < 10 then Char.ofNat (48 + n) else Char.ofNat (87 + n)

/-- The upper-case hexadecimal digit of a number below sixteen. -/
def upperHex (n : Nat) : Char := if n < 10 then Char.ofNat (48 + n) else Char.ofNat (55 + n)

/-- Reading a digit undoes writing it, in either case. -/
theorem hexValue?_digit : ∀ n < 16, hexValue? (hexDigit n) = some n ∧ hexValue? (upperHex n) = some n := by
  decide

/-- What is read as a digit is one, in one of the two cases. -/
theorem eq_digit_of_hexValue? {c : Char} {n : Nat} (h : hexValue? c = some n) :
    n < 16 ∧ (c = hexDigit n ∨ c = upperHex n) := by
  unfold hexValue? at h
  split at h
  · next hc =>
    have hlow : 48 ≤ c.toNat := hc.1
    have hhigh : c.toNat ≤ 57 := hc.2
    have hn := Option.some.inj h
    have hsum : 48 + n = c.toNat := by omega
    refine ⟨by omega, .inl ?_⟩
    rw [hexDigit, if_pos (by omega), hsum, Char.ofNat_toNat]
  · split at h
    · next hc =>
      have hlow : 97 ≤ c.toNat := hc.1
      have hhigh : c.toNat ≤ 102 := hc.2
      have hn := Option.some.inj h
      have hsum : 87 + n = c.toNat := by omega
      refine ⟨by omega, .inl ?_⟩
      rw [hexDigit, if_neg (by omega), hsum, Char.ofNat_toNat]
    · split at h
      · next hc =>
        have hlow : 65 ≤ c.toNat := hc.1
        have hhigh : c.toNat ≤ 70 := hc.2
        have hn := Option.some.inj h
        have hsum : 55 + n = c.toNat := by omega
        refine ⟨by omega, .inr ?_⟩
        rw [upperHex, if_neg (by omega), hsum, Char.ofNat_toNat]
      · cases h

end Shoreline.Text
