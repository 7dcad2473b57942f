import Shoreline.Text.Letter.Table
import Shoreline.Text.Ranges

/-!
# `Shoreline.Text.Letter` — letters and digits of all scripts

A letter has the Unicode property `Alphabetic`, a digit one of the numeric categories. Marks that are
no part of a letter, punctuation and signs are neither.
-/

namespace Shoreline.Text

/-- A letter or a digit. -/
def isLetterOrDigit (c : Char) : Bool :=
  if c.toNat < 0x80 then c.isAlphanum else inRanges letterRanges c.toNat

/-- In ASCII these are the letters and digits of the core library. -/
theorem isLetterOrDigit_ascii {c : Char} (h : c.toNat < 0x80) : isLetterOrDigit c = c.isAlphanum :=
  if_pos h

end Shoreline.Text
