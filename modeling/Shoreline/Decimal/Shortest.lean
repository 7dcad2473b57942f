import Shoreline.Decimal.Binary
import Shoreline.Decimal.Numeral

/-!
# `Shoreline.Decimal.Shortest` — the fewest digits that read back

A double is written with the fewest decimal digits from which it can be read back, and with the
nearest of those to its exact value. The numbers that read back as a double form an interval around
it: half way to the neighbour below and half way to the neighbour above, both ends included when the
mantissa is even. In whole numbers times one power of ten, the question is which grid
`10 ^ k` is the coarsest with a point inside; if any point of a grid lies inside, so does the point
next below the value or the one next above it, so two candidates a grid are enough.

## Contents
- `Decimal10`: digits and a power of ten.
- `Neighbourhood`: the interval of a double; `search` walks the grids from coarse to fine.
- `shortest`: the decimal of a positive finite double.
-/

namespace Shoreline.Decimal

/-- A decimal number: `coefficient * 10 ^ power`. -/
structure Decimal10 where
  coefficient : Nat
  power : Int
deriving DecidableEq, Repr

namespace Decimal10

/-- The same number without zeros at the end of the coefficient, as far as the fuel goes. -/
def trimZeros : Nat → Decimal10 → Decimal10
  | 0, d => d
  | fuel + 1, d =>
    if d.coefficient ≠ 0 ∧ d.coefficient % 10 = 0 then
      trimZeros fuel ⟨d.coefficient / 10, d.power + 1⟩
    else d

end Decimal10

/-- The numbers that read back as one double, as whole numbers times `10 ^ power`. -/
structure Neighbourhood where
  low : Nat
  exact : Nat
  high : Nat
  /-- Whether the two ends read back as the double too. -/
  closed : Bool
  power : Int

namespace Neighbourhood

/-- The interval of `m * 2 ^ q`. Below a power of two the neighbours stand twice as close. -/
def of (m : Nat) (q : Int) : Neighbourhood where
  low := atTen (if m = 0x10000000000000 ∧ -1074 < q then 4 * m - 1 else 4 * m - 2) (q - 2)
  exact := atTen (4 * m) (q - 2)
  high := atTen (4 * m + 2) (q - 2)
  closed := m % 2 == 0
  power := min (q - 2) 0

/-- Whether a number reads back as the double. -/
def holds (i : Neighbourhood) (n : Nat) : Bool :=
  if i.closed then i.low ≤ n && n ≤ i.high else i.low < n && n < i.high

/-- The nearer of two points around the exact value; of two at one distance, the even one. -/
def nearer (i : Neighbourhood) (unit d : Nat) : Nat :=
  let below := i.exact - d * unit
  let above := (d + 1) * unit - i.exact
  if below < above || (below == above && d % 2 == 0) then d else d + 1

/-- Walk the grids `10 ^ k`, `10 ^ (k - 1)`, … and stop at the first with a point inside. -/
def search (i : Neighbourhood) : Nat → Decimal10
  | 0 => ⟨i.exact, i.power⟩
  | k + 1 =>
    let unit := Nat.pow 10 (k + 1)
    let d := i.exact / unit
    let power := i.power + (k + 1 : Nat)
    match i.holds (d * unit), i.holds ((d + 1) * unit) with
    | true, true => ⟨i.nearer unit d, power⟩
    | true, false => ⟨d, power⟩
    | false, true => ⟨d + 1, power⟩
    | false, false => search i k

end Neighbourhood

/-- The shortest decimal of `m * 2 ^ q`, for a positive mantissa. -/
def shortest (m : Nat) (q : Int) : Decimal10 :=
  let i := Neighbourhood.of m q
  let places := (numeral i.exact).length
  (i.search (places - 1)).trimZeros places

/-- The exact value lies inside its own interval, so the walk ends with a number that reads back. -/
theorem Neighbourhood.low_le_exact (m : Nat) (q : Int) :
    (Neighbourhood.of m q).low ≤ (Neighbourhood.of m q).exact ∧
      (Neighbourhood.of m q).exact ≤ (Neighbourhood.of m q).high := by
  refine ⟨atTen_le_atTen _ ?_, atTen_le_atTen _ (by omega)⟩
  split <;> omega

end Shoreline.Decimal
