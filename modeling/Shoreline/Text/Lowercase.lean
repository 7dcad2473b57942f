import Shoreline.Text.Lowercase.Table
import Shoreline.Text.Ranges

/-!
# `Shoreline.Text.Lowercase` — texts in small letters

Searching ignores case: both sides are put into small letters first. `lowercase` follows the full
mapping of the Unicode standard, in which two characters need care. The capital `İ` becomes two
characters, a small `i` and a combining dot. The capital sigma becomes `ς` at the end of a word and
`σ` elsewhere, so its image depends on its neighbours; the end of a word is the standard's
`Final_Sigma` condition.

## Contents
- `smallLetter`: the image of one character.
- `endsWord`: the `Final_Sigma` condition, on what stands before and after.
- `lowercase`: the image of a text.
-/

namespace Shoreline.Text

/-- A letter that has case and is not passed over by `isCaseIgnorable`. -/
def isCased (c : Char) : Bool :=
  if c.toNat < 0x80 then c.isAlpha else inRanges casedRanges c.toNat

/-- A character that does not end a word: a mark, an apostrophe, a joiner. -/
def isCaseIgnorable (c : Char) : Bool := inRanges ignorableRanges c.toNat

/-- The code point of the small letter of `n`: the first run that holds `n` shifts it. -/
def shiftCapital (n : Nat) : List (Nat × Nat × Nat × Int) → Nat
  | [] => n
  | (first, last, step, shift) :: runs =>
    if first ≤ n && n ≤ last && (n - first) % step == 0 then ((n : Int) + shift).toNat
    else shiftCapital n runs

/-- The image of one character; the capital sigma has the one it takes inside a word. -/
def smallLetter (c : Char) : List Char :=
  if c.toNat < 0x80 then [c.toLower]
  else if c = 'İ' then ['i', Char.ofNat 0x307]
  else [Char.ofNat (shiftCapital c.toNat capitalRuns)]

/-- A letter with case comes next, once characters that do not end a word are passed over. -/
def meetsLetter (s : List Char) : Bool :=
  match s.dropWhile isCaseIgnorable with
  | [] => false
  | c :: _ => isCased c

/-- The place between `before` (nearest character first) and `after` is the end of a word. -/
def endsWord (before after : List Char) : Bool := meetsLetter before && !meetsLetter after

/-- Lowercase a list of characters, with those already passed at hand, nearest first. -/
def lowercaseFrom (before : List Char) : List Char → List Char
  | [] => []
  | c :: after =>
    (if c = 'Σ' then [if endsWord before after then 'ς' else 'σ'] else smallLetter c) ++
      lowercaseFrom (c :: before) after

/-- The text in small letters. -/
def lowercase (s : String) : String := String.ofList (lowercaseFrom [] s.toList)

/-- A text in ASCII changes character by character. -/
theorem lowercaseFrom_ascii (before s : List Char) (h : ∀ c ∈ s, c.toNat < 0x80) :
    lowercaseFrom before s = s.map Char.toLower := by
  induction s generalizing before with
  | nil => rfl
  | cons c s ih =>
    have hc : c.toNat < 0x80 := h c (by simp)
    have hs : c ≠ 'Σ' := by
      rintro rfl
      exact absurd hc (by decide)
    rw [lowercaseFrom, if_neg hs, ih _ (fun d hd => h d (by simp [hd])), smallLetter, if_pos hc]
    rfl

end Shoreline.Text
