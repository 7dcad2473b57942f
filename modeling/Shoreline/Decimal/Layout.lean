import Shoreline.Decimal.Shortest

/-!
# `Shoreline.Decimal.Layout` — how digits are set out as text

Three formats are in use. JSON numbers keep a fraction (`1.0`) and turn to an exponent outside
`1e-5` to `1e16`; the numbers of an address are always positional and drop the fraction of a whole
number; distances have three places. The first two share the shortest digits and differ in a
`Layout`; the third rounds the exact value.

## Contents
- `Layout`, with the values `Layout.json` and `Layout.plain`; `Layout.float?` writes a finite double.
- `plainFloat`: the positional text of any double.
- `fixedFloat`: a double to a number of places, a half to the even neighbour.
-/

namespace Shoreline.Decimal

/-- How the digits of a number are set out. -/
structure Layout where
  /-- The least and the greatest power of ten of a leading digit that is written in full. -/
  positional : Option (Int × Int)
  /-- Whether a whole number ends in `.0`. -/
  fraction : Bool

namespace Layout

/-- Numbers of a JSON text: `1.0`, `1e+16`, `1e-7`. -/
def json : Layout := ⟨some (-5, 15), true⟩

/-- Numbers of an address or a setting: no exponent, no `.0`. -/
def plain : Layout := ⟨none, false⟩

/-- Digits in full; the leading digit stands at `10 ^ lead`. -/
def inFull (l : Layout) (digits : List Char) (lead : Int) : List Char :=
  if lead < 0 then '0' :: '.' :: (List.replicate (-lead - 1).toNat '0' ++ digits)
  else
    let whole := lead.toNat + 1
    if digits.length ≤ whole then
      digits ++ List.replicate (whole - digits.length) '0' ++
        (if l.fraction then ['.', '0'] else [])
    else digits.take whole ++ '.' :: digits.drop whole

/-- Digits with an exponent: one digit, the others as a fraction, the power with its sign. -/
def withExponent (digits : List Char) (lead : Int) : List Char :=
  let mantissa :=
    match digits with
    | d :: e :: r => d :: '.' :: e :: r
    | ds => ds
  mantissa ++ 'e' :: (if lead < 0 then '-' else '+') :: numeral lead.natAbs

/-- Set out digits whose first stands at `10 ^ lead`. -/
def setOut (l : Layout) (digits : List Char) (lead : Int) : List Char :=
  match l.positional with
  | none => l.inFull digits lead
  | some (least, greatest) =>
    if least ≤ lead ∧ lead ≤ greatest then l.inFull digits lead else withExponent digits lead

/-- The magnitude of a finite double. -/
def magnitude (l : Layout) (m : Nat) (q : Int) : List Char :=
  if m = 0 then l.inFull ['0'] 0
  else
    let d := shortest m q
    let digits := numeral d.coefficient
    l.setOut digits (d.power + digits.length - 1)

/-- A finite double; `none` for the others. -/
def float? (l : Layout) (f : Float) : Option (List Char) :=
  if f.isFinite then
    let b := Binary.parts f
    some ((if b.negative then ['-'] else []) ++ l.magnitude b.mantissa b.power)
  else none

end Layout

/-- Any double without an exponent: the shortest digits, or `NaN`, `inf`, `-inf`. -/
def plainFloat (f : Float) : String :=
  match Layout.plain.float? f with
  | some s => String.ofList s
  | none => if f.isNaN then "NaN" else if f < 0 then "-inf" else "inf"

/-- A double to a number of decimal places, rounded from its exact value; a half goes to the even
neighbour. -/
def fixedFloat (places : Nat) (f : Float) : String :=
  if f.isFinite then
    let b := Binary.parts f
    let scaled :=
      if 0 ≤ b.power then b.mantissa * Nat.pow 2 b.power.toNat * Nat.pow 10 places
      else roundHalfEven (b.mantissa * Nat.pow 10 places) (Nat.pow 2 (-b.power).toNat)
    let digits := padded (places + 1) scaled
    let whole := digits.length - places
    String.ofList ((if b.negative then ['-'] else []) ++ digits.take whole ++
      (if places = 0 then [] else '.' :: digits.drop whole))
  else if f.isNaN then "NaN" else if f < 0 then "-inf" else "inf"

end Shoreline.Decimal
