import Shoreline.Text.Blank
import Shoreline.Time.Instant

/-!
# `Shoreline.Time.Rfc3339` — dates and instants as text

Instants are written in UTC as RFC 3339 has it, `2030-08-15T05:00:00.000Z`; years outside 0 to 9999
carry a sign. Reading is more lenient than writing: blanks may stand in front of a number and around
the separators, months and days may have one digit, a year with a sign may have any number of
digits, the time may follow the date after `T`, `t` or a blank, and the offset may be `Z`, `UTC` or
hours and minutes with or without a colon. Digits behind the ninth of a fraction are dropped.

## Contents
- `writeMillis`: three digits of a fraction; `writeShort`: none, three, six or nine, as needed.
- `Scan`: readers of the beginning of a text; `readNumber`, `readYear`, `readMark` are the tokens.
- `Date.parse?` and `Instant.parse?`.
-/

namespace Shoreline.Time

open Shoreline.Text Shoreline.Decimal

/-! ## Writing -/

/-- Date and time up to the second, in UTC. -/
def writeSeconds (t : Instant) : List Char :=
  let l := t.localParts Offset.utc
  let leap := t.nanos / 1000000000
  writeDay l.date.year l.date.month l.date.day ++ 'T' :: padded 2 l.hour ++ ':' ::
    padded 2 l.minute ++ ':' :: padded 2 (l.second + leap)

/-- An instant with milliseconds. -/
def writeMillis (t : Instant) : String :=
  String.ofList (writeSeconds t ++ '.' :: padded 3 (t.nanos % 1000000000 / 1000000) ++ ['Z'])

/-- An instant with as many groups of three digits of a fraction as it needs. -/
def writeShort (t : Instant) : String :=
  let n := t.nanos % 1000000000
  let fraction :=
    if n = 0 then []
    else if n % 1000000 = 0 then '.' :: padded 3 (n / 1000000)
    else if n % 1000 = 0 then '.' :: padded 6 (n / 1000)
    else '.' :: padded 9 n
  String.ofList (writeSeconds t ++ fraction ++ ['Z'])

/-! ## Reading -/

/-- A reader of the beginning of a text: what it reads, and the characters left behind it. -/
abbrev Scan := StateT (List Char) Option

/-- Read with `r`, and then everything that is left must be blank. -/
def Scan.all? {α : Type} (r : Scan α) (s : String) : Option α :=
  match r s.toList with
  | some (a, rest) => if rest.all isBlank then some a else none
  | none => none

/-- Drop blanks. -/
def skipBlank : Scan Unit := fun s => some ((), stripStart isBlank s)

/-- A number of one to `width` digits. -/
def readDigits (width : Nat) : Scan Nat := fun s =>
  let digits := (s.take width).takeWhile Char.isDigit
  if digits.isEmpty then none else some (value digits, s.drop digits.length)

/-- A number of one to `width` digits, with blanks in front, between two bounds. -/
def readNumber (width least greatest : Nat) : Scan Nat := do
  skipBlank
  let n ← readDigits width
  if least ≤ n ∧ n ≤ greatest then pure n else failure

/-- A year, with blanks in front: up to four digits, or a sign and any number of digits. -/
def readYear : Scan Int := fun s =>
  match stripStart isBlank s with
  | '-' :: r => ((readDigits r.length).map (fun n => -(n : Int))).run r
  | '+' :: r => ((readDigits r.length).map Int.ofNat).run r
  | r => ((readDigits 4).map Int.ofNat).run r

/-- A separator, with blanks in front. -/
def readMark (c : Char) : Scan Unit := fun s =>
  match stripStart isBlank s with
  | d :: rest => if d = c then some ((), rest) else none
  | [] => none

/-- A date: year, month and day. -/
def readDate : Scan Date := do
  let year ← readYear
  readMark '-'
  let month ← readNumber 2 1 12
  readMark '-'
  let day ← readNumber 2 1 31
  liftM (Date.of? year month day)

/-- The date of a text. -/
def Date.parse? (s : String) : Option Date := readDate.all? s

/-- The fraction of a second in nanoseconds, if there is one. Digits behind the ninth are dropped. -/
def readNanos : Scan Nat := fun s =>
  match s with
  | '.' :: r =>
    match readDigits 9 r with
    | some (n, rest) =>
      some (n * Nat.pow 10 (9 - (r.length - rest.length)), stripStart Char.isDigit rest)
    | none => none
  | _ => some (0, s)

/-- Two digits that make a number up to a bound. -/
def readPair (greatest : Nat) : Scan Nat := fun s =>
  match s with
  | a :: b :: rest =>
    let n := 10 * digitValue a + digitValue b
    if a.isDigit && b.isDigit && n ≤ greatest then some (n, rest) else none
  | _ => none

/-- Hours and minutes of an offset behind its sign, in seconds. -/
def readShift : Scan Int := do
  let hours ← readPair 99
  modify (stripStart (fun c => c = ':' || isBlank c))
  let minutes ← readPair 59
  pure ((hours * 3600 + minutes * 60 : Nat) : Int)

/-- The letters `UTC` in any case. -/
def isUtcWord (s : List Char) : Bool := s.map Char.toLower == ['u', 't', 'c']

/-- An offset in seconds, with blanks in front. -/
def readOffset : Scan Int := fun s =>
  let s := stripStart isBlank s
  if isUtcWord (s.take 3) then some (0, s.drop 3)
  else
    match s with
    | 'Z' :: r => some (0, r)
    | 'z' :: r => some (0, r)
    | '+' :: r => readShift r
    | '-' :: r => (readShift.map (- ·)).run r
    | '−' :: r => (readShift.map (- ·)).run r
    | _ => none

/-- The letter between date and time. -/
def readTimeMark : Scan Unit := fun s =>
  match s with
  | c :: r => if c = 'T' ∨ c = 't' ∨ c = ' ' then some ((), r) else none
  | [] => none

/-- Date, time and offset. A second 60 is the leap second of its minute. -/
def readInstant : Scan Instant := do
  let date ← readDate
  readTimeMark
  let hour ← readNumber 2 0 23
  readMark ':'
  let minute ← readNumber 2 0 59
  readMark ':'
  let second ← readNumber 2 0 60
  let nanos ← readNanos
  let offset ← liftM (Offset.of? (← readOffset))
  if second = 60 then liftM (Instant.ofLocal? date hour minute 59 (nanos + 1000000000) offset)
  else liftM (Instant.ofLocal? date hour minute second nanos offset)

/-- The instant of a text. -/
def Instant.parse? (s : String) : Option Instant := readInstant.all? s

end Shoreline.Time
