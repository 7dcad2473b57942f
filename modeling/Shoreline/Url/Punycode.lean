/-!
# `Shoreline.Url.Punycode` — labels of hosts in ASCII

A label of a host that holds other characters than ASCII is sent as `xn--` and its Punycode: the
ASCII characters first, then, in ascending order of the others, how far each of them is from the one
before, counted over code points and places. The distances are written in digits of base 36 whose
weights adapt to the distances so far.

## Contents
- `threshold`, `digits`, `adapt`: distances as digits.
- `Encoder`, `encode`: a label.
-/

namespace Shoreline.Url.Punycode

/-- The digit of a number below 36: letters, then the digits of ASCII. -/
def digit (n : Nat) : Char := if n < 26 then Char.ofNat (97 + n) else Char.ofNat (22 + n)

/-- The digits at place `k` that end a distance are those below the threshold. -/
def threshold (bias k : Nat) : Nat := max 1 (min 26 (k - bias))

theorem threshold_pos (bias k : Nat) : 1 ≤ threshold bias k := Nat.le_max_left ..

/-- A distance in digits from place `k` on, the least first. -/
def digits (bias k n : Nat) : List Char :=
  let t := threshold bias k
  if n < t then [digit n] else digit (t + (n - t) % (36 - t)) :: digits bias (k + 36) ((n - t) / (36 - t))
termination_by n
decreasing_by
  have hpos := threshold_pos bias k
  have hle : (n - threshold bias k) / (36 - threshold bias k) ≤ n - threshold bias k :=
    Nat.div_le_self ..
  omega

/-- The place that a distance suggests, after the distance has been brought below 456. -/
def settle (n k : Nat) : Nat :=
  if 455 < n then settle (n / 35) (k + 36) else k + 36 * n / (n + 38)
termination_by n

/-- The bias after a distance, when so many characters have been written. -/
def adapt (distance written : Nat) (first : Bool) : Nat :=
  let n := if first then distance / 700 else distance / 2
  settle (n + n / written) 0

/-- A label being written. -/
structure Encoder where
  /-- What has been written. -/
  out : List Char
  distance : Nat := 0
  bias : Nat := 72
  /-- How many characters have been written. -/
  written : Nat

namespace Encoder

/-- Pass a character of the label while `point` is looked for. -/
def pass (basic point : Nat) (e : Encoder) (c : Char) : Encoder :=
  if c.toNat < point then { e with distance := e.distance + 1 }
  else if c.toNat = point then
    { out := e.out ++ digits e.bias 36 e.distance
      distance := 0
      bias := adapt e.distance (e.written + 1) (e.written == basic)
      written := e.written + 1 }
  else e

/-- Write all occurrences of the code points of a list, which is in ascending order and begins at
`least` or above. -/
def write (label : List Char) (basic least : Nat) (e : Encoder) : List Nat → Encoder
  | [] => e
  | point :: points =>
    let e := { e with distance := e.distance + (point - least) * (e.written + 1) }
    let e := label.foldl (pass basic point) e
    write label basic (point + 1) { e with distance := e.distance + 1 } points

end Encoder

/-- The Punycode of a label. -/
def encode (label : List Char) : List Char :=
  let basic := label.filter (·.toNat < 0x80)
  let others := ((label.filter (0x80 ≤ ·.toNat)).map (·.toNat)).mergeSort.eraseDups
  let start : Encoder :=
    { out := if basic.isEmpty then [] else basic ++ ['-'], written := basic.length }
  (start.write label basic.length 0x80 others).out

end Shoreline.Url.Punycode
