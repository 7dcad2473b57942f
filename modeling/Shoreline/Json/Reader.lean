import Shoreline.Json.Document
import Shoreline.Json.Number
import Shoreline.Text.Hex
import Shoreline.Text.Utf8

/-!
# `Shoreline.Json.Reader` — JSON texts taken apart

A reader of RFC 8259 without extensions: no byte-order mark, no comments, no trailing comma, nothing
after the value. Each function takes the characters that are left and answers with what it read and
what is left behind it. Functions that call one another carry a bound on the number of calls, which
`Document.read?` sets from the length of the text; `Value.read?` is the reader for texts of which
everything is kept. `Document.readBytes?` takes bytes apart, of which only the strings that are kept
need to be UTF-8.

## Contents
- `readPieces`, `joinPieces`, `readString`: characters, escapes, surrogate pairs.
- `readNumber`: the grammar of numbers.
- `readDocument` with `readItems` and `readMembers`; `Document.read?`, `Value.read?`.
- `spoiled`, `Document.readBytes?`.
-/

namespace Shoreline.Json

open Shoreline.Decimal Shoreline.Text

/-- Drop the blanks that JSON allows between tokens. -/
def skipBlanks (s : List Char) : List Char :=
  s.dropWhile (fun c => c = ' ' || c = '\t' || c = '\n' || c = '\r')

/-! ## Strings -/

/-- The number of four hexadecimal digits. -/
def hexUnit? (a b c d : Char) : Option Nat :=
  match hexValue? a, hexValue? b, hexValue? c, hexValue? d with
  | some a, some b, some c, some d => some (((a * 16 + b) * 16 + c) * 16 + d)
  | _, _, _, _ => none

/-- The character that a one-letter escape stands for. -/
def escaped? : Char → Option Char
  | '"' => some '"'
  | '\\' => some '\\'
  | '/' => some '/'
  | 'b' => some (Char.ofNat 8)
  | 'f' => some (Char.ofNat 12)
  | 'n' => some '\n'
  | 'r' => some '\r'
  | 't' => some '\t'
  | _ => none

/-- Whether a unit is the first, or the second, half of a surrogate pair. -/
def isHighHalf (n : Nat) : Bool := 0xD800 ≤ n && n ≤ 0xDBFF

@[inherit_doc isHighHalf]
def isLowHalf (n : Nat) : Bool := 0xDC00 ≤ n && n ≤ 0xDFFF

/-- The character of a surrogate pair. -/
def joinHalves (high low : Nat) : Char :=
  Char.ofNat ((high - 0xD800) * 0x400 + (low - 0xDC00) + 0x10000)

/-- A piece of a string: a character, or a unit written as four hexadecimal digits. -/
inductive Piece
  | char (c : Char)
  | unit (n : Nat)

/-- Read the pieces of a string behind its opening quote, up to the closing one. -/
def readPieces : List Char → Option (List Piece × List Char)
  | [] => none
  | '"' :: rest => some ([], rest)
  | '\\' :: 'u' :: a :: b :: c :: d :: rest =>
    match hexUnit? a b c d with
    | none => none
    | some n => (readPieces rest).map (fun r => (.unit n :: r.1, r.2))
  | '\\' :: c :: rest =>
    match escaped? c with
    | none => none
    | some e => (readPieces rest).map (fun r => (.char e :: r.1, r.2))
  | c :: rest =>
    if c.toNat < 32 then none else (readPieces rest).map (fun r => (.char c :: r.1, r.2))

/-- The characters of pieces; `none` when half of a surrogate pair stands without its partner. -/
def joinPieces : List Piece → Option (List Char)
  | [] => some []
  | .char c :: rest => (joinPieces rest).map (c :: ·)
  | .unit n :: .unit m :: rest =>
    if isHighHalf n then
      if isLowHalf m then (joinPieces rest).map (joinHalves n m :: ·) else none
    else if isLowHalf n then none
    else (joinPieces (.unit m :: rest)).map (Char.ofNat n :: ·)
  | .unit n :: rest =>
    if isHighHalf n || isLowHalf n then none else (joinPieces rest).map (Char.ofNat n :: ·)

/-- Read a string behind its opening quote. -/
def readString (s : List Char) : Option (Option String × List Char) :=
  (readPieces s).map (fun r => ((joinPieces r.1).map String.ofList, r.2))

/-! ## Numbers -/

/-- The digits before the point: a zero alone, or digits that do not begin with zero. -/
def readWhole (s : List Char) : Option (List Char × List Char) :=
  match spanDigits s with
  | ([], _) => none
  | ('0' :: _ :: _, _) => none
  | r => some r

/-- The digits behind the point, if there is a point. -/
def readFraction : List Char → Option (List Char × List Char)
  | '.' :: s =>
    match spanDigits s with
    | ([], _) => none
    | r => some r
  | s => some ([], s)

/-- The exponent, if there is one. -/
def readExponent : List Char → Option (Option Int × List Char)
  | c :: s =>
    if c = 'e' ∨ c = 'E' then
      let (negative, s) :=
        match s with
        | '-' :: r => (true, r)
        | '+' :: r => (false, r)
        | r => (false, r)
      match spanDigits s with
      | ([], _) => none
      | (digits, rest) =>
        let n : Int := value digits
        some (some (if negative then -n else n), rest)
    else some (none, c :: s)
  | [] => some (none, [])

/-- Read a number. -/
def readNumber (s : List Char) : Option (Option Number × List Char) := do
  let (negative, s) :=
    match s with
    | '-' :: r => (true, r)
    | r => (false, r)
  let (whole, s) ← readWhole s
  let (fraction, s) ← readFraction s
  let (exponent, s) ← readExponent s
  some (Lexeme.value? ⟨negative, whole, fraction, exponent⟩, s)

/-! ## Documents -/

/-- Read the given characters. -/
def readWord (word : List Char) (s : List Char) : Option (List Char) :=
  if word.isPrefixOf s then some (s.drop word.length) else none

mutual

/-- Read a document, with blanks in front of it. -/
def readDocument : Nat → List Char → Option (Document × List Char)
  | 0, _ => none
  | fuel + 1, s =>
    match skipBlanks s with
    | [] => none
    | '"' :: rest => (readString rest).map (fun r => (.str r.1, r.2))
    | '[' :: rest =>
      match skipBlanks rest with
      | ']' :: rest' => some (.arr [], rest')
      | rest' => (readItems fuel rest').map (fun r => (.arr r.1, r.2))
    | '{' :: rest =>
      match skipBlanks rest with
      | '}' :: rest' => some (.obj [], rest')
      | rest' => (readMembers fuel rest').map (fun r => (.obj r.1, r.2))
    | 'n' :: rest => (readWord ['u', 'l', 'l'] rest).map (fun r => (.null, r))
    | 't' :: rest => (readWord ['r', 'u', 'e'] rest).map (fun r => (.bool true, r))
    | 'f' :: rest => (readWord ['a', 'l', 's', 'e'] rest).map (fun r => (.bool false, r))
    | rest => (readNumber rest).map (fun r => (.num r.1, r.2))

/-- Read one or more array items and the bracket behind them. -/
def readItems : Nat → List Char → Option (List Document × List Char)
  | 0, _ => none
  | fuel + 1, s =>
    match readDocument fuel s with
    | none => none
    | some (d, rest) =>
      match skipBlanks rest with
      | ']' :: rest' => some ([d], rest')
      | ',' :: rest' => (readItems fuel rest').map (fun r => (d :: r.1, r.2))
      | _ => none

/-- Read one or more object members and the brace behind them. -/
def readMembers : Nat → List Char → Option (List (Option String × Document) × List Char)
  | 0, _ => none
  | fuel + 1, s =>
    match skipBlanks s with
    | '"' :: rest =>
      match readString rest with
      | none => none
      | some (k, rest) =>
        match skipBlanks rest with
        | ':' :: rest =>
          match readDocument fuel rest with
          | none => none
          | some (d, rest) =>
            match skipBlanks rest with
            | '}' :: rest' => some ([(k, d)], rest')
            | ',' :: rest' => (readMembers fuel rest').map (fun r => ((k, d) :: r.1, r.2))
            | _ => none
        | _ => none
    | _ => none

end

/-- Take a text apart. A call passes at most two further ones before it consumes a character, so
twice the length of the text bounds the calls. -/
def Document.read? (s : List Char) : Option Document :=
  match readDocument (2 * s.length + 2) s with
  | some (d, rest) => if (skipBlanks rest).isEmpty then some d else none
  | none => none

/-- The value of a text of which everything is kept. -/
def Value.read? (s : String) : Option Value :=
  (Document.read? s.toList).bind (·.keep maxNesting)

/-- What is read where bytes are no UTF-8. Within a string it is half of a surrogate pair, with a letter
in front so that it cannot be the partner of another half: such a string can be passed over, but it
cannot be kept. Anywhere else it is a fault. -/
def spoiled : List Char := ['x', '\\', 'u', 'D', 'C', '0', '0']

/-- Take bytes apart. -/
def Document.readBytes? (bytes : List UInt8) : Option Document :=
  read? ((decodeChars bytes).flatMap fun c => c.elim spoiled ([·]))

end Shoreline.Json
