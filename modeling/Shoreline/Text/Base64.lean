/-!
# `Shoreline.Text.Base64` — bytes in sixty-four characters

Three bytes are written as four characters of six bits each. One or two bytes at the end are filled up
with zeros, and `=` stands where no bits are left.

## Contents
- `base64Digit`, `base64`.
- `isVisible`, `visible_base64`: all of the text can be seen.
-/

namespace Shoreline.Text

/-- The character of six bits. -/
def base64Digit (n : Nat) : Char :=
  if n < 26 then Char.ofNat ('A'.toNat + n)
  else if n < 52 then Char.ofNat ('a'.toNat + (n - 26))
  else if n < 62 then Char.ofNat ('0'.toNat + (n - 52))
  else if n = 62 then '+'
  else '/'

/-- The characters of bytes. -/
def base64 : List UInt8 → List Char
  | [] => []
  | [a] => [base64Digit (a.toNat / 4), base64Digit (a.toNat % 4 * 16), '=', '=']
  | [a, b] =>
    [base64Digit (a.toNat / 4), base64Digit (a.toNat % 4 * 16 + b.toNat / 16),
      base64Digit (b.toNat % 16 * 4), '=']
  | a :: b :: c :: s =>
    base64Digit (a.toNat / 4) :: base64Digit (a.toNat % 4 * 16 + b.toNat / 16) ::
      base64Digit (b.toNat % 16 * 4 + c.toNat / 64) :: base64Digit (c.toNat % 64) :: base64 s

/-- A character that leaves a mark on paper. -/
def isVisible (c : Char) : Bool := 0x21 ≤ c.toNat && c.toNat ≤ 0x7E

theorem isVisible_base64Digit (n : Nat) : isVisible (base64Digit n) = true := by
  have hall : ∀ n < 64, isVisible (base64Digit n) = true := by decide
  rcases Nat.lt_or_ge n 64 with hlow | hhigh
  · exact hall n hlow
  · have hlast : base64Digit n = '/' := by
      unfold base64Digit
      rw [if_neg (by omega), if_neg (by omega), if_neg (by omega), if_neg (by omega)]
    rw [hlast]
    decide

/-- Nothing in the text is a blank or a control character. -/
theorem visible_base64 (s : List UInt8) : ∀ c ∈ base64 s, isVisible c = true := by
  have hfill : isVisible '=' = true := by decide
  fun_induction base64 s with
  | case1 => exact List.forall_mem_nil _
  | case2 a => simp only [List.forall_mem_cons, isVisible_base64Digit, hfill, true_and, List.not_mem_nil, false_imp_iff,
      implies_true]
  | case3 a b => simp only [List.forall_mem_cons, isVisible_base64Digit, hfill, true_and, List.not_mem_nil, false_imp_iff,
      implies_true]
  | case4 a b c s ih => simpa only [List.forall_mem_cons, isVisible_base64Digit, true_and] using ih

/-- The texts that the standard gives for the beginnings of one word. -/
example : ["f", "fo", "foo", "foob", "fooba", "foobar"].map
      (fun s => String.ofList (base64 (s.toList.map (·.toUInt8)))) =
    ["Zg==", "Zm8=", "Zm9v", "Zm9vYg==", "Zm9vYmE=", "Zm9vYmFy"] := by decide

end Shoreline.Text
