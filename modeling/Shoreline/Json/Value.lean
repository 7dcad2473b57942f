import Shoreline.Decimal.Layout
import Shoreline.Text.Hex
import Shoreline.Text.SortedMap

/-!
# `Shoreline.Json.Value` — JSON values and their written form

A JSON value as the program holds it. Numbers keep whether they were whole: whole numbers of 64 bits
stay exact, every other number is a double. An object is the list of its members in the order in
which they are written; records list theirs in the order of the fields, everything that was read
comes sorted by key (`Value.normal`).

## Contents
- `Number`, `Value`, and the questions about them that decoders ask.
- `Value.normal`: members sorted by key, the last of those with one key.
- `Value.compact` and `Value.pretty`: the text without blanks, and with two blanks a level.
-/

namespace Shoreline.Json

open Shoreline.Text

/-- A JSON number: whole, or a double. -/
inductive Number
  | int (i : Int)
  | float (f : Float)

/-- The double nearest to a number. -/
def Number.toFloat : Number → Float
  | .int i => Float.ofInt i
  | .float f => f

/-- A JSON value. -/
inductive Value
  | null
  | bool (b : Bool)
  | num (n : Number)
  | str (s : String)
  | arr (items : List Value)
  | obj (members : List (String × Value))

namespace Value

instance : Inhabited Value := ⟨null⟩

/-- A whole number. -/
def int (i : Int) : Value := num (.int i)

/-- A double; one that is not finite has no JSON number and becomes null. -/
def float (f : Float) : Value := if f.isFinite then num (.float f) else null

/-- A text, or null in its absence. -/
def optionStr : Option String → Value
  | none => null
  | some s => str s

/-- The array of a list, member by member. -/
def list {α : Type} (f : α → Value) (l : List α) : Value := arr (l.map f)

/-! ## Normal form -/

mutual

/-- Every object with its members sorted by key, the last of those with one key. -/
def normal : Value → Value
  | arr items => arr (normalItems items)
  | obj members => obj (normalMembers [] members)
  | v => v

/-- Items in normal form. -/
def normalItems : List Value → List Value
  | [] => []
  | v :: rest => v.normal :: normalItems rest

/-- Members in normal form, put one after the other among those already placed. -/
def normalMembers (placed : List (String × Value)) : List (String × Value) → List (String × Value)
  | [] => placed
  | (k, v) :: rest => normalMembers (insertEntry k v.normal placed) rest

end

/-! ## Written form -/

/-- One character inside a JSON string. Quotes, backslashes and control characters are escaped;
nothing else is. -/
def escapeChar (c : Char) : List Char :=
  if c = '"' then ['\\', '"']
  else if c = '\\' then ['\\', '\\']
  else if c = '\n' then ['\\', 'n']
  else if c = '\r' then ['\\', 'r']
  else if c = '\t' then ['\\', 't']
  else if c.toNat = 8 then ['\\', 'b']
  else if c.toNat = 12 then ['\\', 'f']
  else if c.toNat < 32 then
    ['\\', 'u', '0', '0', hexDigit (c.toNat / 16), hexDigit (c.toNat % 16)]
  else [c]

/-- A text as a JSON string. -/
def quote (s : String) : List Char := '"' :: s.toList.flatMap escapeChar ++ ['"']

/-- The text of a number. -/
def writeNumber : Number → List Char
  | .int i => Decimal.signed i
  | .float f => (Decimal.Layout.json.float? f).getD "null".toList

mutual

/-- The text of a value, without blanks. -/
def write : Value → List Char
  | null => "null".toList
  | bool b => (if b then "true" else "false").toList
  | num n => writeNumber n
  | str s => quote s
  | arr items => '[' :: writeItems items ++ [']']
  | obj members => '{' :: writeMembers members ++ ['}']

/-- Array items, a comma between two. -/
def writeItems : List Value → List Char
  | [] => []
  | [v] => write v
  | v :: w :: rest => write v ++ ',' :: writeItems (w :: rest)

/-- Object members, a comma between two. -/
def writeMembers : List (String × Value) → List Char
  | [] => []
  | [(k, v)] => quote k ++ ':' :: write v
  | (k, v) :: w :: rest => quote k ++ ':' :: (write v ++ ',' :: writeMembers (w :: rest))

end

/-- The text of a value on one line. -/
def compact (v : Value) : String := String.ofList (write v)

/-- A new line, indented by two blanks a level. -/
def newline (level : Nat) : List Char := '\n' :: List.replicate (2 * level) ' '

mutual

/-- The text of a value spread over lines; an empty array or object stays on one. -/
def writePretty (level : Nat) : Value → List Char
  | arr [] => ['[', ']']
  | arr (v :: items) =>
    '[' :: newline (level + 1) ++ writePretty (level + 1) v ++ writePrettyItems (level + 1) items ++
      newline level ++ [']']
  | obj [] => ['{', '}']
  | obj ((k, v) :: members) =>
    '{' :: newline (level + 1) ++ quote k ++ ':' :: ' ' :: writePretty (level + 1) v ++
      writePrettyMembers (level + 1) members ++ newline level ++ ['}']
  | null => "null".toList
  | bool b => (if b then "true" else "false").toList
  | num n => writeNumber n
  | str s => quote s

/-- Array items after the first, each on a line of its own. -/
def writePrettyItems (level : Nat) : List Value → List Char
  | [] => []
  | v :: rest => ',' :: newline level ++ writePretty level v ++ writePrettyItems level rest

/-- Object members after the first, each on a line of its own. -/
def writePrettyMembers (level : Nat) : List (String × Value) → List Char
  | [] => []
  | (k, v) :: rest =>
    ',' :: newline level ++ quote k ++ ':' :: ' ' :: writePretty level v ++
      writePrettyMembers level rest

end

/-- The text of a value over several lines. -/
def pretty (v : Value) : String := String.ofList (writePretty 0 v)

/-! ## Values as text -/

/-- A value where a text is wanted: a string is its text, null is empty, anything else is written
out, with sorted members. -/
def asText : Value → String
  | str s => s
  | null => ""
  | v => v.normal.compact

/-- A value where a text is wanted and null counts as a value: a string is its text, anything else
is written out. -/
def asLabel : Value → String
  | str s => s
  | v => v.normal.compact

/-- Whether a value counts as yes: not false, zero, the empty text or null. -/
def isTruthy : Value → Bool
  | null => false
  | bool b => b
  | num n => n.toFloat != 0
  | str s => !s.isEmpty
  | arr _ => true
  | obj _ => true

/-- The text of a string, and nothing for other values. -/
def asString? : Value → Option String
  | str s => some s
  | _ => none

end Value

end Shoreline.Json
