/-!
# `Shoreline.Decimal.Binary` — doubles as exact numbers

A finite double is a sign and a whole number times a power of two. `parts` takes that apart, and
everything about decimal texts of doubles is then exact arithmetic on natural numbers. A number
`m * 2 ^ q` is also a whole number times a power of ten: for negative `q` it is
`(m * 5 ^ (-q)) * 10 ^ q`. `atTen` is that whole number; the power of ten is `min q 0`.
-/

namespace Shoreline.Decimal

/-- A finite double: `± mantissa * 2 ^ power`. -/
structure Binary where
  /-- Whether the sign bit is set; zero has a sign too. -/
  negative : Bool
  mantissa : Nat
  power : Int
deriving DecidableEq, Repr

namespace Binary

/-- The parts of the double with these bits, whatever the exponent field says. -/
def ofBits (bits : UInt64) : Binary :=
  let n := bits.toNat
  let field : Nat := n / 0x10000000000000 % 0x800
  let fraction : Nat := n % 0x10000000000000
  let negative := n / 0x8000000000000000 == 1
  if field = 0 then ⟨negative, fraction, -1074⟩
  else ⟨negative, 0x10000000000000 + fraction, (field : Int) - 1075⟩

/-- The parts of a finite double. -/
def parts (f : Float) : Binary := ofBits f.toBits

end Binary

/-- The whole number `n` with `m * 2 ^ q = n * 10 ^ (min q 0)`. -/
def atTen (m : Nat) (q : Int) : Nat :=
  if 0 ≤ q then m * Nat.pow 2 q.toNat else m * Nat.pow 5 (-q).toNat

/-- Scaling keeps the order of mantissas. -/
theorem atTen_le_atTen {m n : Nat} (q : Int) (h : m ≤ n) : atTen m q ≤ atTen n q := by
  unfold atTen
  split <;> exact Nat.mul_le_mul_right _ h

/-- A fraction rounded to a whole number, a half to the even neighbour. -/
def roundHalfEven (num den : Nat) : Nat :=
  let low := num / den
  let rest := 2 * (num % den)
  if rest < den || (rest == den && low % 2 == 0) then low else low + 1

/-- **Rounding moves by half a unit at most.** -/
theorem roundHalfEven_near (num den : Nat) (h : 0 < den) :
    2 * (roundHalfEven num den * den) ≤ 2 * num + den ∧
      2 * num ≤ 2 * (roundHalfEven num den * den) + den := by
  have hdiv : den * (num / den) + num % den = num := Nat.div_add_mod num den
  have hmod : num % den < den := Nat.mod_lt num h
  have hc : num / den * den = den * (num / den) := Nat.mul_comm _ _
  unfold roundHalfEven
  simp only [Bool.or_eq_true, Bool.and_eq_true, decide_eq_true_eq, beq_iff_eq]
  split
  · next hle =>
    rw [hc]
    omega
  · next hgt =>
    have hs : (num / den + 1) * den = den * (num / den) + den := by rw [Nat.succ_mul, hc]
    rw [hs]
    omega

end Shoreline.Decimal
