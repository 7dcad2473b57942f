import Mathlib.Algebra.Group.Int.Defs
import Mathlib.Algebra.Group.Nat.Defs

/-!
# `Shoreline.Proofs.Decimal.Finite` — whole numbers of 64 bits are finite doubles

The double of a whole number is infinite only if the number is too large for the exponents there are, and
no number of 64 bits is. The bounds are rough: every step of the way adds some places to the exponent at
most, and there are a thousand of them.

## Contents
- `Within`, `within_unpack_pack`, `within_pack`: finite doubles with an exponent that is not too large.
- `shiftToTargetExponent_snd`, `within_pack_round`, `within_pack_mul`: rounding keeps them finite.
- `within_toFloat`, `within_ofNat`, `isFinite_ofInt`: whole numbers.
-/

namespace Shoreline.Decimal

open Float.Model

/-- A double is zero, or finite with an exponent of at most `k` and at most 53 bits in front of it. -/
def Within (k : Int) : UnpackedFloat → Prop
  | .zero _ => True
  | .finite _ m e _ => m < 2 ^ 53 ∧ e ≤ k
  | _ => False

theorem isFinite_of_within {k : Int} {x : UnpackedFloat} (h : Within k x) : x.isFinite = true := by
  cases x with
  | zero s => rfl
  | finite s m e hm => rfl
  | infinity s => exact h.elim
  | notANumber => exact h.elim

theorem within_neg {k : Int} {x : UnpackedFloat} (h : Within k x) : Within k x.neg := by
  cases x with
  | zero s => trivial
  | finite s m e hm => exact h
  | infinity s => exact h.elim
  | notANumber => exact h.elim

theorem within_mono {k l : Int} {x : UnpackedFloat} (h : Within k x) (hkl : k ≤ l) : Within l x := by
  cases x with
  | zero s => trivial
  | finite s m e hm => exact ⟨h.1, Int.le_trans h.2 hkl⟩
  | infinity s => exact h.elim
  | notANumber => exact h.elim

/-- An exponent field that is not all ones is that of a finite double. -/
theorem within_unpack {k : Int} {b : BitVec Format.binary64.numBits}
    (hones : UnpackedFloat.unpackExponent b ≠ -1#11)
    (hk : ((UnpackedFloat.unpackExponent b).toNat : Int) - 1075 ≤ k) (hleast : -1074 ≤ k) :
    Within k (UnpackedFloat.unpack .binary64 b) := by
  have hbias : (Format.binary64.exponentBias : Int) = 1023 := rfl
  have hplaces : (Format.binary64.mantissaBitsWithoutImplicit : Int) = 52 := rfl
  unfold UnpackedFloat.unpack
  dsimp only
  rw [if_neg hones]
  by_cases hzero : UnpackedFloat.unpackExponent b = BitVec.ofNat _ 0
  · rw [if_pos hzero]
    by_cases hm : UnpackedFloat.unpackMantissa b = BitVec.ofNat _ 0
    · rw [dif_pos hm]
      trivial
    · rw [dif_neg hm, hzero, hbias, hplaces]
      exact ⟨Nat.lt_trans (UnpackedFloat.unpackMantissa b).isLt (by decide), by simpa using hleast⟩
  · rw [if_neg hzero, hbias, hplaces]
    exact ⟨(1#1 ++ UnpackedFloat.unpackMantissa b).isLt, by omega⟩

theorem within_unpack_packComponents {k : Int} (s : UnpackedFloat.Sign) {ev : BitVec 11}
    (mv : BitVec 52) (hones : ev ≠ -1#11) (hk : (ev.toNat : Int) - 1075 ≤ k) (hleast : -1074 ≤ k) :
    Within k (UnpackedFloat.unpack .binary64 (UnpackedFloat.packComponents .binary64 s ev mv)) := by
  have hfield : UnpackedFloat.unpackExponent (UnpackedFloat.packComponents .binary64 s ev mv) = ev :=
    UnpackedFloat.unpackExponent_packComponents ..
  exact within_unpack (by rwa [hfield]) (by rwa [hfield]) hleast

/-- **A double that is packed stays finite** if its exponent is not too large. -/
theorem within_unpack_pack {s : UnpackedFloat.Sign} {m : ℕ} {e k : Int} (hm : 0 < m)
    (he : e ≤ k) (hleast : -1074 ≤ k) (hmost : k ≤ 970) :
    Within k (UnpackedFloat.unpack .binary64 (UnpackedFloat.pack .binary64 (.finite s m e hm))) := by
  have hbias : (Format.binary64.exponentBias : Int) = 1023 := rfl
  have hfield : (e + Format.binary64.exponentBias + (52 : ℕ)).toNat ≤ (k + 1075).toNat := by
    rw [hbias]
    omega
  unfold UnpackedFloat.pack
  dsimp only
  generalize (e + Format.binary64.exponentBias + (52 : ℕ)).toNat = field at hfield ⊢
  have hsmall : field < 2 ^ 11 := by omega
  rw [if_neg (by show ¬ 2 ^ 11 ≤ field + 1; omega)]
  split
  · refine within_unpack_packComponents s _ ?_ ?_ hleast
    · intro h
      have hnat := congrArg BitVec.toNat h
      rw [BitVec.toNat_ofNat, Nat.mod_eq_of_lt hsmall] at hnat
      have hones : (-1#11 : BitVec 11).toNat = 2047 := rfl
      omega
    · rw [BitVec.toNat_ofNat, Nat.mod_eq_of_lt hsmall]
      omega
  · exact within_unpack_packComponents s _ (by decide) (by simp; omega) hleast

theorem within_pack_zero (s : UnpackedFloat.Sign) {k : Int} (hleast : -1074 ≤ k) :
    Within k (pack (.zero s)).unpack :=
  within_unpack_packComponents s 0 (by decide) (by simp; omega) hleast

theorem within_pack {k : Int} {x : UnpackedFloat} (h : Within k x) (hleast : -1074 ≤ k)
    (hmost : k ≤ 970) : Within k (pack x).unpack := by
  cases x with
  | zero s => exact within_pack_zero s hleast
  | finite s m e hm => exact within_unpack_pack hm h.2 hleast hmost
  | infinity s => exact h.elim
  | notANumber => exact h.elim

/-! ## Rounding -/

/-- The exponent after a shift is the target, unless it was larger before. -/
theorem shiftToTargetExponent_snd (m : ℕ) (e : Int) (a : UnpackedFloat.Accuracy) :
    (UnpackedFloat.shiftToTargetExponent .binary64 m e a).2 =
      max e (max ((m.log2 : Int) + 1 + e - 53) (-1074)) := by
  have hmin : Format.binary64.minExponent = -1074 := by decide
  have hbits : (Format.binary64.mantissaBits : Int) = 53 := rfl
  unfold UnpackedFloat.shiftToTargetExponent UnpackedFloat.shiftToExponent Format.targetExponent totalExponent
  dsimp only
  rw [hmin, hbits]
  omega

/-- A mantissa does not grow when it is shifted to the right. -/
theorem mantissa_shift_le (m : ℕ) (e : Int) :
    (UnpackedFloat.shiftToTargetExponent .binary64 m e .exact).1.mantissa ≤ m := by
  have hrepeat : ∀ (n : ℕ) (em : UnpackedFloat.ExtendedMantissa),
      (n.repeat UnpackedFloat.ExtendedMantissa.shiftRightOne em).mantissa ≤ em.mantissa := by
    intro n em
    induction n with
    | zero => exact Nat.le_refl _
    | succ n ih => exact Nat.le_trans (Nat.div_le_self _ 2) ih
  exact hrepeat _ _

/-- Rounding adds one to the mantissa at most. -/
theorem roundedMantissa_le (em : UnpackedFloat.ExtendedMantissa) :
    em.roundedMantissa ≤ em.mantissa + 1 := by
  unfold UnpackedFloat.ExtendedMantissa.roundedMantissa UnpackedFloat.Accuracy.roundToNearestEven
  split <;> omega

/-- **A rounded double is finite** if there are not too many places in front and the exponent is not too
large; the exponent grows by a bounded number of places. -/
theorem within_pack_round {s : UnpackedFloat.Sign} {m : ℕ} {e k : Int} (hm : m < 2 ^ 119) (he : e ≤ k)
    (hleast : 0 ≤ k) (hmost : k ≤ 400) :
    Within (k + 134) (pack (UnpackedFloat.roundWithAccuracy .binary64 s m e .exact)).unpack := by
  obtain ⟨em, e₁, hfirst⟩ : ∃ em e₁,
    UnpackedFloat.shiftToTargetExponent .binary64 m e .exact = (em, e₁) := ⟨_, _, rfl⟩
  obtain ⟨em', e₂, hsecond⟩ : ∃ em' e₂,
    UnpackedFloat.shiftToTargetExponent .binary64 em.roundedMantissa e₁ .exact = (em', e₂) := ⟨_, _, rfl⟩
  have hexp₁ := shiftToTargetExponent_snd m e .exact
  have hexp₂ := shiftToTargetExponent_snd em.roundedMantissa e₁ .exact
  have hmantissa := mantissa_shift_le m e
  have hrounded := roundedMantissa_le em
  rw [hfirst] at hexp₁ hmantissa
  rw [hsecond] at hexp₂
  have hlog₁ : m.log2 < 119 := by
    rcases Nat.eq_zero_or_pos m with rfl | hpos
    · decide
    · exact (Nat.log2_lt (Nat.ne_of_gt hpos)).mpr hm
  have hlog₂ : em.roundedMantissa.log2 < 120 := by
    rcases Nat.eq_zero_or_pos em.roundedMantissa with hzero | hpos
    · rw [hzero]
      decide
    · refine (Nat.log2_lt (Nat.ne_of_gt hpos)).mpr ?_
      dsimp only at hmantissa
      omega
  have hlast : e₂ ≤ k + 134 := by
    dsimp only at hexp₁ hexp₂
    omega
  unfold UnpackedFloat.roundWithAccuracy
  rw [hfirst]
  dsimp only
  rw [hsecond]
  dsimp only
  by_cases hzero : em'.mantissa = 0
  · rw [dif_pos hzero]
    exact within_pack_zero s (by omega)
  · rw [dif_neg hzero]
    exact within_unpack_pack (Nat.pos_of_ne_zero hzero) hlast (by omega) (by omega)

/-! ## Whole numbers -/

/-- A product of two doubles that are not too large is finite. -/
theorem within_pack_mul {k l : Int} {x y : UnpackedFloat} (hx : Within k x) (hy : Within l y)
    (hleast : 0 ≤ k + l) (hmost : k + l ≤ 400) :
    Within (k + l + 134) (pack (UnpackedFloat.mul .binary64 x y)).unpack := by
  cases x with
  | infinity s => exact hx.elim
  | notANumber => exact hx.elim
  | zero s =>
    cases y with
    | infinity t => exact hy.elim
    | notANumber => exact hy.elim
    | zero t => exact within_pack_zero _ (by omega)
    | finite t m e hm => exact within_pack_zero _ (by omega)
  | finite s m e hm =>
    cases y with
    | infinity t => exact hy.elim
    | notANumber => exact hy.elim
    | zero t => exact within_pack_zero _ (by omega)
    | finite t n f hn =>
      obtain ⟨hmbits, hme⟩ := hx
      obtain ⟨hnbits, hnf⟩ := hy
      have hproduct : m * n < 2 ^ 119 :=
        Nat.lt_trans (Nat.mul_lt_mul'' hmbits hnbits) (by decide)
      exact within_pack_round hproduct (by omega) hleast hmost

/-- A whole number of 64 bits with places added behind it. -/
theorem shiftLeft_lt {n places : ℕ} (hn : n < 2 ^ 64) (hplaces : places ≤ 53) :
    n <<< places < 2 ^ 119 := by
  rw [Nat.shiftLeft_eq]
  calc n * 2 ^ places ≤ n * 2 ^ 53 := Nat.mul_le_mul_left n (Nat.pow_le_pow_right (by decide) hplaces)
    _ < 2 ^ 64 * 2 ^ 53 := Nat.mul_lt_mul_of_pos_right hn (by decide)
    _ < 2 ^ 119 := by decide

/-- The double of a word is finite. -/
theorem within_toFloat (n : UInt64) : Within 134 n.toFloat.toModel.unpack := by
  show Within 134 (pack (UnpackedFloat.normalize .binary64 (n.toNat : Int) 0 .positive)).unpack
  unfold UnpackedFloat.normalize
  split
  · next hlt =>
    rw [Int.compare_eq_lt] at hlt
    omega
  · exact within_pack_zero _ (by omega)
  · have hplaces :
        (0 - Format.binary64.targetExponent (totalExponent (Int.toNat n.toNat) 0)).toNat ≤ 53 := by
      have hmin : Format.binary64.minExponent = -1074 := by decide
      have hbits : (Format.binary64.mantissaBits : Int) = 53 := rfl
      unfold Format.targetExponent totalExponent
      rw [hmin, hbits]
      omega
    unfold UnpackedFloat.round UnpackedFloat.decreaseExponent
    dsimp only
    exact within_pack_round (k := 0) (shiftLeft_lt n.toNat_lt hplaces) (by omega) (by decide) (by decide)

/-- The double one, which stands first among the powers of ten. -/
theorem within_one : Within 0 Float.exactlyRepresentablePowersOfTen[0].toModel.unpack := by
  have hone : Float.exactlyRepresentablePowersOfTen[0].toModel.unpack =
      .finite .positive (2 ^ 52) (-52) (by decide) := by rfl
  rw [hone]
  exact ⟨by decide, by decide⟩

/-- **A natural number of 64 bits is a finite double.** -/
theorem within_ofNat {n : ℕ} (h : n < 2 ^ 64) : Within 268 (Float.ofNat n).toModel.unpack := by
  show Within 268 (Float.ofScientific n false 0).toModel.unpack
  unfold Float.ofScientific
  split
  · exact within_pack_mul (within_toFloat _) within_one (by decide) (by decide)
  · show Within 268 (pack (UnpackedFloat.ofScientific .binary64 n 0)).unpack
    unfold UnpackedFloat.ofScientific
    by_cases hzero : n = 0
    · rw [dif_pos hzero]
      exact within_pack_zero _ (by decide)
    · have hbits : (2 ^ Format.binary64.exponentBits : Int) = 2048 := by decide
      rw [dif_neg hzero, if_neg (by decide), if_neg (by omega), if_pos (Int.le_refl 0)]
      -- as many places as a mantissa has are added behind the number, which is multiplied by one then
      have hproduct : n <<< Format.binary64.mantissaBits * 10 ^ Int.toNat 0 < 2 ^ 119 := by
        rw [show Format.binary64.mantissaBits = 53 from rfl, Int.toNat_zero, Nat.pow_zero, Nat.mul_one]
        exact shiftLeft_lt h (Nat.le_refl 53)
      unfold UnpackedFloat.mul
      dsimp only
      exact within_mono (within_pack_round hproduct (k := 0) (by decide) (by decide) (by decide))
        (by decide)

/-- **A whole number of 64 bits is a finite double**, whatever its sign. -/
theorem isFinite_ofInt {i : Int} (h : i.natAbs < 2 ^ 64) : (Float.ofInt i).isFinite = true := by
  cases i with
  | ofNat n => exact isFinite_of_within (within_ofNat h)
  | negSucc n =>
    have hsucc : Within 268 (Float.ofNat n.succ).toModel.unpack := within_ofNat h
    exact isFinite_of_within (within_pack (within_neg hsucc) (by decide) (by decide))

end Shoreline.Decimal
