import Shoreline.Text.Quoted.Table
import Shoreline.Text.Ranges

/-!
# `Shoreline.Text.Quoted` — texts in quotes for messages

A text that appears inside a message stands in double quotes, so that one sees where it begins and
ends. Quotes, backslashes and characters that cannot be seen are escaped.
-/

namespace Shoreline.Text

/-- A control, a format character, a mark, or a code point without a meaning of its own. -/
def isUnseen (c : Char) : Bool := inRanges unseenRanges c.toNat

/-- One character within quotes. -/
def quoteChar (c : Char) : List Char :=
  if c = '"' then ['\\', '"']
  else if c = '\\' then ['\\', '\\']
  else if c = '\n' then ['\\', 'n']
  else if c = '\r' then ['\\', 'r']
  else if c = '\t' then ['\\', 't']
  else if c.toNat = 0 then ['\\', '0']
  else if isUnseen c then ['\\', 'u', '\x7b'] ++ Nat.toDigits 16 c.toNat ++ ['\x7d']
  else [c]

/-- A text in double quotes. -/
def quoted (s : String) : String := String.ofList ('"' :: s.toList.flatMap quoteChar ++ ['"'])

end Shoreline.Text
