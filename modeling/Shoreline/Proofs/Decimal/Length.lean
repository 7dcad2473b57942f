import Mathlib.Algebra.Group.Nat.Defs
import Shoreline.Decimal.Layout

/-!
# `Shoreline.Proofs.Decimal.Length` — how long the text of a double can get

An address holds coordinates in full, without an exponent, and an address that is too long is not sent.
A double has few digits, but the zeros around them may be many: as many as the exponent allows. Here is
a bound on all of it. It is not the best one; it is good enough for three numbers in one address.

## Contents
- `length_numeral_le`; `Decimal10.trimZeros_bounds`, `Neighbourhood.search_bounds`.
- `exact_lt`, `length_shortest_le`, `shortest_bounds`.
- `Layout.length_inFull_le`, `Binary.ofBits_bounds`.
- `utf8ByteSize_plainFloat_le`: the text of any double.
-/

namespace Shoreline.Decimal

/-- A number below a power of ten has so many digits at most. -/
theorem length_numeral_le {k : Nat} (hk : 0 < k) {n : Nat} (h : n < 10 ^ k) :
    (numeral n).length ≤ k := by
  induction k generalizing n with
  | zero => exact absurd hk (Nat.lt_irrefl 0)
  | succ k ih =>
    rw [numeral]
    split
    · exact Nat.succ_le_succ (Nat.zero_le k)
    · next hten =>
      have hpow : (10 : Nat) ^ (k + 1) = 10 ^ k * 10 := Nat.pow_succ 10 k
      have hrest : n / 10 < 10 ^ k := by omega
      have hpos : 0 < k := by
        rcases Nat.eq_zero_or_pos k with rfl | hpos
        · omega
        · exact hpos
      rw [List.length_append]
      exact Nat.succ_le_succ (ih hpos hrest)

/-- Dropping zeros makes the coefficient smaller and the power greater, by as many as were dropped. -/
theorem Decimal10.trimZeros_bounds (fuel : Nat) (d : Decimal10) :
    (d.trimZeros fuel).coefficient ≤ d.coefficient ∧ d.power ≤ (d.trimZeros fuel).power ∧
      (d.trimZeros fuel).power ≤ d.power + fuel := by
  induction fuel generalizing d with
  | zero => exact ⟨Nat.le_refl _, Int.le_refl _, Int.le_of_eq (Int.add_zero _).symm⟩
  | succ fuel ih =>
    rw [trimZeros]
    split
    · obtain ⟨hc, hlow, hhigh⟩ := ih ⟨d.coefficient / 10, d.power + 1⟩
      dsimp only at hc hlow hhigh
      have hdiv : d.coefficient / 10 ≤ d.coefficient := Nat.div_le_self _ _
      omega
    · omega

theorem Neighbourhood.nearer_le (i : Neighbourhood) (unit d : Nat) : i.nearer unit d ≤ d + 1 := by
  unfold nearer
  dsimp only
  split
  · exact Nat.le_succ d
  · exact Nat.le_refl _

/-- The walk over the grids ends at most one unit above the exact value, on one of the grids. -/
theorem Neighbourhood.search_bounds (i : Neighbourhood) (k : Nat) :
    (i.search k).coefficient ≤ i.exact + 1 ∧ i.power ≤ (i.search k).power ∧
      (i.search k).power ≤ i.power + k := by
  -- the cases are those of the walk: its end, then which of the two candidates of a grid lie inside
  fun_induction search i k with
  | case1 => exact ⟨Nat.le_succ _, Int.le_refl _, Int.le_of_eq (Int.add_zero _).symm⟩
  | case2 k unit d power hbelow habove =>
    have hdiv : d ≤ i.exact := Nat.div_le_self _ _
    have hnearer := i.nearer_le unit d
    dsimp only
    omega
  | case3 k unit d power hbelow habove =>
    have hdiv : d ≤ i.exact := Nat.div_le_self _ _
    dsimp only
    omega
  | case4 k unit d power hbelow habove =>
    have hdiv : d ≤ i.exact := Nat.div_le_self _ _
    dsimp only
    omega
  | case5 k unit d hbelow habove ih => omega

/-- A scaled mantissa is bounded if it is at the greatest power of two and at the least. -/
theorem atTen_lt {m : Nat} {q : Int} {bound u d : Nat} (hup : q ≤ u) (hdown : -q ≤ d)
    (hu : m * 2 ^ u < bound) (hd : m * 5 ^ d < bound) : atTen m q < bound := by
  unfold atTen
  split
  · exact Nat.lt_of_le_of_lt
      (Nat.mul_le_mul_left m (Nat.pow_le_pow_right (by decide) (by omega))) hu
  · exact Nat.lt_of_le_of_lt
      (Nat.mul_le_mul_left m (Nat.pow_le_pow_right (by decide) (by omega))) hd

/-- The exact value of a double has at most 800 digits. -/
theorem exact_lt {m : Nat} {q : Int} (hm : m < 2 ^ 53) (hlow : -1074 ≤ q)
    (hhigh : q ≤ 972) : (Neighbourhood.of m q).exact < 10 ^ 800 := by
  have hmantissa : atTen (4 * m) (q - 2) ≤ atTen (2 ^ 55) (q - 2) :=
    atTen_le_atTen _ (by omega)
  have hscaled : atTen (2 ^ 55) (q - 2) < 10 ^ 800 :=
    atTen_lt (u := 970) (d := 1076) (by omega) (by omega) (by decide +kernel) (by decide +kernel)
  exact Nat.lt_of_le_of_lt hmantissa hscaled

/-- The shortest decimal has at most one digit more than the exact value. -/
theorem length_shortest_le {m : Nat} {q : Int} {k : Nat}
    (h : (Neighbourhood.of m q).exact < 10 ^ k) :
    (numeral (shortest m q).coefficient).length ≤ k + 1 := by
  have hpow : (10 : Nat) ^ (k + 1) = 10 ^ k * 10 := Nat.pow_succ 10 k
  obtain ⟨hwalk, _⟩ := (Neighbourhood.of m q).search_bounds
    ((numeral (Neighbourhood.of m q).exact).length - 1)
  obtain ⟨htrimmed, _⟩ := ((Neighbourhood.of m q).search
    ((numeral (Neighbourhood.of m q).exact).length - 1)).trimZeros_bounds
    (numeral (Neighbourhood.of m q).exact).length
  have hcoefficient : (shortest m q).coefficient ≤ (Neighbourhood.of m q).exact + 1 :=
    Nat.le_trans htrimmed hwalk
  have hlt : (shortest m q).coefficient < 10 ^ (k + 1) := by omega
  exact length_numeral_le (Nat.succ_pos k) hlt

/-- The shortest decimal of a double has at most 801 digits, and its power of ten is bounded too. -/
theorem shortest_bounds {m : Nat} {q : Int} (hm : m < 2 ^ 53) (hlow : -1074 ≤ q)
    (hhigh : q ≤ 972) : (numeral (shortest m q).coefficient).length ≤ 801 ∧
      -1076 ≤ (shortest m q).power ∧ (shortest m q).power ≤ 1600 := by
  have hexact := exact_lt hm hlow hhigh
  have hplaces := length_numeral_le (by decide) hexact
  have hdigits := length_shortest_le hexact
  have hpower : (Neighbourhood.of m q).power = min (q - 2) 0 := rfl
  obtain ⟨_, hl, hh⟩ := (Neighbourhood.of m q).search_bounds
    ((numeral (Neighbourhood.of m q).exact).length - 1)
  obtain ⟨_, hl', hh'⟩ := ((Neighbourhood.of m q).search
    ((numeral (Neighbourhood.of m q).exact).length - 1)).trimZeros_bounds
    (numeral (Neighbourhood.of m q).exact).length
  refine ⟨hdigits, ?_, ?_⟩
  · unfold shortest
    dsimp only
    omega
  · unfold shortest
    dsimp only
    omega

namespace Layout

/-- Digits in full, with the zeros between them and the point. -/
theorem length_inFull_le (l : Layout) (digits : List Char) (lead : Int) :
    (l.inFull digits lead).length ≤ digits.length + lead.natAbs + 3 := by
  unfold inFull
  split
  · simp only [List.length_cons, List.length_append, List.length_replicate]
    omega
  · dsimp only
    split
    · split <;>
        simp only [List.length_cons, List.length_append, List.length_replicate, List.length_nil] <;>
        omega
    · simp only [List.length_cons, List.length_append, List.length_take, List.length_drop]
      omega

theorem length_magnitude_le {m : Nat} {q : Int} (hm : m < 2 ^ 53) (hlow : -1074 ≤ q)
    (hhigh : q ≤ 972) : (plain.magnitude m q).length ≤ 3300 := by
  unfold magnitude
  split
  · exact Nat.le_trans (plain.length_inFull_le ['0'] 0) (by decide)
  · obtain ⟨hdigits, hl, hh⟩ := shortest_bounds hm hlow hhigh
    refine Nat.le_trans (plain.length_inFull_le _ _) ?_
    omega

end Layout

/-- The parts of a double are small, whatever its bits. -/
theorem Binary.ofBits_bounds (bits : UInt64) :
    (Binary.ofBits bits).mantissa < 2 ^ 53 ∧ -1074 ≤ (Binary.ofBits bits).power ∧
      (Binary.ofBits bits).power ≤ 972 := by
  unfold ofBits
  dsimp only
  have hfield : bits.toNat / 0x10000000000000 % 0x800 < 0x800 := Nat.mod_lt _ (by decide)
  have hfraction : bits.toNat % 0x10000000000000 < 0x10000000000000 := Nat.mod_lt _ (by decide)
  split
  · dsimp only
    omega
  · dsimp only
    omega

/-- A character takes four bytes at most. -/
theorem utf8ByteSize_ofList_le (cs : List Char) :
    (String.ofList cs).utf8ByteSize ≤ 4 * cs.length := by
  induction cs with
  | nil => exact Nat.le_refl 0
  | cons c cs ih =>
    have hc := c.utf8Size_le_four
    rw [String.ofList_cons, String.utf8ByteSize_append, String.utf8ByteSize_singleton,
      List.length_cons]
    omega

/-- **The text of a double in an address is bounded**, whatever the double. -/
theorem utf8ByteSize_plainFloat_le (f : Float) : (plainFloat f).utf8ByteSize ≤ 14000 := by
  unfold plainFloat Layout.float?
  split
  · next s hs =>
    split at hs
    · obtain ⟨hm, hlow, hhigh⟩ := Binary.ofBits_bounds f.toBits
      have hlength := Layout.length_magnitude_le hm hlow hhigh
      refine Nat.le_trans (utf8ByteSize_ofList_le s) ?_
      rw [← Option.some.inj hs, List.length_append]
      have hsign : (if (Binary.ofBits f.toBits).negative then ['-'] else ([] : List Char)).length ≤
          1 := by
        split <;> decide
      unfold Binary.parts
      omega
    · cases hs
  · split
    · decide
    · split <;> decide

end Shoreline.Decimal
