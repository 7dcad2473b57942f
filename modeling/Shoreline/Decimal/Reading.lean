import Shoreline.Decimal.Numeral

/-!
# `Shoreline.Decimal.Reading` — decimal texts as doubles

Coordinates and settings that arrive as text: an optional sign, then digits with an optional point
(on either side of which the digits may be missing, but not on both) and an optional exponent, or
one of the words `inf`, `infinity`, `nan` in any case. The value is the double nearest to the exact
decimal. Blanks are not passed over here; callers that allow them trim first.

## Contents
- `NumeralText`: the parts of an unsigned decimal, and `NumeralText.read?` its grammar.
- `float`: the double of a text, or the `FloatFault` that it has none.
-/

namespace Shoreline.Decimal

/-- Why a text is not a decimal number. -/
inductive FloatFault
  | empty
  | malformed
deriving DecidableEq, Repr

/-- What is said about a text that is not a number. -/
def FloatFault.message : FloatFault → String
  | .empty => "cannot parse float from empty string"
  | .malformed => "invalid float literal"

/-- An unsigned decimal: digits before and after the point, and an exponent. -/
structure NumeralText where
  whole : List Char
  fraction : List Char
  exponent : Int

namespace NumeralText

/-- The exponent part that ends a number: nothing, or `e` and an integer. -/
def exponent? : List Char → Option Int
  | [] => some 0
  | c :: s => if c = 'e' ∨ c = 'E' then integer? s else none

/-- The parts of a whole text. -/
def read? (s : List Char) : Option NumeralText :=
  let (whole, rest) := spanDigits s
  let (fraction, rest) :=
    match rest with
    | '.' :: r => spanDigits r
    | r => ([], r)
  if whole.isEmpty && fraction.isEmpty then none
  else (exponent? rest).map (fun e => ⟨whole, fraction, e⟩)

/-- The double nearest to the number. Beyond the range of doubles the magnitude is taken for
infinite or for zero without working out the power of ten. -/
def toFloat (t : NumeralText) : Float :=
  let digits := t.whole ++ t.fraction
  let n := value digits
  let power := t.exponent - t.fraction.length
  let lead := power + digits.length
  if n = 0 ∨ lead < -400 then 0
  else if 400 + (digits.length : Int) < lead then 1 / 0
  else Float.ofScientific n (power < 0) power.natAbs

end NumeralText

/-- The words for numbers that have no digits. -/
def word? (s : List Char) : Option Float :=
  let w := s.map Char.toLower
  if w = "inf".toList ∨ w = "infinity".toList then some (1 / 0)
  else if w = "nan".toList then some (0 / 0)
  else none

/-- A magnitude: a decimal or a word. -/
def magnitude? (s : List Char) : Option Float :=
  (word? s).or ((NumeralText.read? s).map NumeralText.toFloat)

/-- The double of a text. -/
def float (s : List Char) : Except FloatFault Float :=
  match s with
  | [] => .error .empty
  | '-' :: r => ((magnitude? r).map (- ·)).elim (.error .malformed) .ok
  | '+' :: r => (magnitude? r).elim (.error .malformed) .ok
  | r => (magnitude? r).elim (.error .malformed) .ok

end Shoreline.Decimal
