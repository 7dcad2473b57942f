import Shoreline.Json.Value

/-!
# `Shoreline.Json.Number` — the value of a JSON number

A number without point and exponent is whole when it fits 64 bits, with or without sign; `-0` and
everything longer is a double. The double of a number is worked out from at most 64 bits of leading
digits and one power of ten: the digits are taken as a double and multiplied or divided by the power
as a double. Digits that no longer fit count as zeros before the point and are dropped behind it. So
a number of up to 15 digits is the nearest double, and a longer one may be its neighbour. A number
beyond the doubles has no value.

## Contents
- `Lexeme`: sign, digits and exponent of a number as written.
- `leading`, `withFraction`: the leading digits that fit 64 bits, and the power of ten they leave.
- `scaleByTen`, `Lexeme.value?`.
-/

namespace Shoreline.Json

open Shoreline.Decimal

/-- A number as written. -/
structure Lexeme where
  negative : Bool
  whole : List Char
  /-- The digits behind the point; empty when there is no point. -/
  fraction : List Char
  /-- The exponent, if one is written. -/
  exponent : Option Int

/-- The greatest whole number of 64 bits. -/
def maxWord : Nat := 0xFFFFFFFFFFFFFFFF

/-- Leading digits: the number of those that fit 64 bits, and how many are left over. -/
def leading (n : Nat) : List Char → Nat × Nat
  | [] => (n, 0)
  | c :: s =>
    let next := 10 * n + digitValue c
    if maxWord < next then (n, s.length + 1) else leading next s

/-- Digits behind the point, taken up as long as they fit 64 bits; the second component counts
them. -/
def withFraction (n : Nat) : List Char → Nat × Nat
  | [] => (n, 0)
  | c :: s =>
    let next := 10 * n + digitValue c
    if maxWord < next then (n, 0)
    else
      let (m, taken) := withFraction next s
      (m, taken + 1)

/-- A power of ten as a double. -/
def powerOfTen (n : Nat) : Float := Float.ofScientific 1 false n

/-- A magnitude times a power of ten. A power below the least one of the doubles is divided out in
several steps; `none` when the result is beyond the doubles. -/
def scaleByTen (steps : Nat) (f : Float) (power : Int) : Option Float :=
  if 0 ≤ power ∧ power ≤ 308 then
    let g := f * powerOfTen power.toNat
    if g.isFinite then some g else none
  else if -308 ≤ power ∧ power < 0 then some (f / powerOfTen power.natAbs)
  else if f == 0 then some f
  else if 0 ≤ power then none
  else
    match steps with
    | 0 => some 0
    | steps + 1 => scaleByTen steps (f / powerOfTen 308) (power + 308)

namespace Lexeme

/-- The double of a number, if there is one. A magnitude of 64 bits vanishes after three steps of
308 powers of ten, so four are enough. -/
def float? (l : Lexeme) : Option Float :=
  let (n, left) := leading 0 l.whole
  let (n, taken) := withFraction n l.fraction
  let power := (left : Int) - taken + l.exponent.getD 0
  (scaleByTen 4 (Float.ofNat n) power).map (fun f => if l.negative then -f else f)

/-- The value of a number, if it is not beyond the doubles. -/
def value? (l : Lexeme) : Option Number :=
  if l.fraction.isEmpty && l.exponent.isNone then
    let n := value l.whole
    if l.negative then
      if 0 < n ∧ n ≤ 0x8000000000000000 then some (.int (-(n : Int))) else l.float?.map .float
    else if n ≤ maxWord then some (.int n) else l.float?.map .float
  else l.float?.map .float

end Lexeme

end Shoreline.Json
