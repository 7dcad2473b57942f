import Shoreline.Decimal.Numeral
import Shoreline.Text.Blank
import Shoreline.Text.Lowercase
import Shoreline.Url.Percent
import Shoreline.Url.Punycode

/-!
# `Shoreline.Url.Host` — hosts and their ports

The host of an address is a name or the number of a machine. Names are written in small letters and
in ASCII; numbers of version four may be written with fewer than four parts and in other bases, and
come out as four decimal parts; numbers of version six stand in brackets and come out with their
longest run of zeros left out.

## Contents
- `ipv4?`, `ipv6?`: numbers.
- `domain?`: names.
- `host?`, `plainHost?`: hosts of schemes with and without a network of their own.
- `port?`.
-/

namespace Shoreline.Url

open Shoreline.Text

/-- The parts of a list between members that satisfy `p`. -/
def splitAt (p : Char → Bool) : List Char → List (List Char)
  | [] => [[]]
  | c :: s =>
    if p c then [] :: splitAt p s
    else
      match splitAt p s with
      | [] => [[c]]
      | part :: parts => (c :: part) :: parts

/-! ## Numbers of version four -/

/-- The number of a text in a base; an empty text is zero. -/
def inBase? (base : Nat) (s : List Char) : Option Nat :=
  s.foldlM (fun n c => ((hexValue? c).filter (· < base)).map (base * n + ·)) 0

/-- A part of a number: in base 16 after `0x`, in base 8 after `0`, else decimal. -/
def ipv4Part? : List Char → Option Nat
  | [] => none
  | '0' :: 'x' :: s => inBase? 16 s
  | '0' :: 'X' :: s => inBase? 16 s
  | '0' :: c :: s => inBase? 8 (c :: s)
  | s => inBase? 10 s

/-- The parts of a name, without an empty one at its end. -/
def dottedParts (s : List Char) : List (List Char) :=
  let parts := splitAt (· = '.') s
  if parts.getLast? == some [] && 1 < parts.length then parts.dropLast else parts

/-- A name that ends in a number is meant to be one. -/
def endsInNumber (s : List Char) : Bool :=
  match (dottedParts s).getLast? with
  | none => false
  | some last => (!last.isEmpty && last.all Char.isDigit) || (ipv4Part? last).isSome

/-- Four decimal parts. -/
def ipv4Text (n : Nat) : List Char :=
  ['.'].intercalate ([16777216, 65536, 256, 1].map fun w => Decimal.numeral (n / w % 256))

/-- A number of version four: at most four parts, of which the last fills what the others leave. -/
def ipv4? (s : List Char) : Option (List Char) := do
  let parts ← (dottedParts s).mapM ipv4Part?
  let last ← parts.getLast?
  let front := parts.dropLast
  if 3 < front.length || front.any (255 < ·) || Nat.pow 256 (4 - front.length) ≤ last then none
  else some (ipv4Text (front.foldr (fun p n => p * 16777216 + n / 256) 0 + last))

/-! ## Numbers of version six -/

/-- A group of up to four hexadecimal digits. -/
def group? (s : List Char) : Option Nat :=
  if s.isEmpty || 4 < s.length then none else inBase? 16 s

/-- A decimal part up to 255 without leading zeros. -/
def octet? (s : List Char) : Option Nat :=
  ((Decimal.natural? s).filter (· ≤ 255)).filter fun n => Decimal.numeral n == s

/-- The last group of a number: digits, or a number of version four for two groups. -/
def lastGroups? (s : List Char) : Option (List Nat) :=
  if s.contains '.' then
    match (splitAt (· = '.') s).mapM octet? with
    | some [a, b, c, d] => some [a * 256 + b, c * 256 + d]
    | _ => none
  else (group? s).map ([·])

/-- Groups between colons. -/
def groups? (s : List Char) : Option (List Nat) :=
  if s.isEmpty then some []
  else do
    let parts := splitAt (· = ':') s
    let front ← parts.dropLast.mapM group?
    let last ← lastGroups? (parts.getLast?.getD [])
    some (front ++ last)

/-- What stands in front of the first double colon and behind it. -/
def splitDouble : List Char → Option (List Char × List Char)
  | ':' :: ':' :: s => some ([], s)
  | c :: s => (splitDouble s).map fun (l, r) => (c :: l, r)
  | [] => none

/-- The eight groups of a number of version six. A double colon stands for one group of zeros or
more. -/
def ipv6? (s : List Char) : Option (List Nat) :=
  match splitDouble s with
  | none => (groups? s).filter (·.length = 8)
  | some (l, r) => do
    let front ← if l.contains '.' then none else groups? l
    let back ← groups? r
    if 7 < front.length + back.length then none
    else some (front ++ List.replicate (8 - front.length - back.length) 0 ++ back)

/-- The length of the run of zeros at the beginning. -/
def zeros (l : List Nat) : Nat := (l.takeWhile (· = 0)).length

/-- Where the longest run of zeros begins, the first of several, and its length. -/
def longestZeros : List Nat → Nat × Nat
  | [] => (0, 0)
  | n :: l =>
    let (start, length) := longestZeros l
    if length ≤ zeros (n :: l) then (0, zeros (n :: l)) else (start + 1, length)

/-- Groups with colons between them. -/
def groupsText (l : List Nat) : List Char := [':'].intercalate (l.map (Nat.toDigits 16))

/-- A number of version six in brackets, with a double colon for the longest run of zeros. -/
def ipv6Text (l : List Nat) : List Char :=
  let (start, length) := longestZeros l
  let inside :=
    if length < 2 then groupsText l
    else groupsText (l.take start) ++ [':', ':'] ++ groupsText (l.drop (start + length))
  '[' :: inside ++ [']']

/-! ## Names -/

/-- A character that no name of a host may hold. -/
def isForbiddenInHost (c : Char) : Bool :=
  c.toNat ≤ 0x20 || c.toNat == 0x7F ||
    ['#', '/', ':', '<', '>', '?', '@', '[', '\\', ']', '^', '|', '%'].contains c

/-- A character as it stands in the name of a host: small and of the usual width. Characters that
only tell how to write or break a line are dropped. -/
def hostChar (c : Char) : List Char :=
  let n := c.toNat
  if 0xFF01 ≤ n && n ≤ 0xFF5E then [(Char.ofNat (n - 0xFEE0)).toLower]
  else if n = 0x3002 || n = 0xFF61 then ['.']
  else if n = 0xAD || n = 0x200B || n = 0x2060 || n = 0xFEFF || (0xFE00 ≤ n && n ≤ 0xFE0F) then []
  else smallLetter c

/-- A label in ASCII. -/
def asciiLabel (label : List Char) : List Char :=
  if label.all (·.toNat < 0x80) then label else "xn--".toList ++ Punycode.encode label

/-- The name of a host, in ASCII. -/
def domain? (s : List Char) : Option (List Char) := do
  let text ← decode? (decodeBytes s)
  let name := text.toList.flatMap hostChar
  if name.any (fun c => isForbiddenInHost c || isBlank c) then none
  else some (['.'].intercalate ((splitAt (· = '.') name).map asciiLabel))

/-! ## Hosts -/

/-- A number of version six between brackets. -/
def bracketed? (s : List Char) : Option (List Char) :=
  if s.getLast? = some ']' then (ipv6? s.dropLast).map ipv6Text else none

/-- A host in the network. -/
def host? (s : List Char) : Option (List Char) :=
  match s with
  | '[' :: r => bracketed? r
  | _ =>
    match domain? s with
    | none => none
    | some name =>
      if name.isEmpty then none else if endsInNumber name then ipv4? name else some name

/-- A host of a scheme of which nothing is known: left as it is. -/
def plainHost? (s : List Char) : Option (List Char) :=
  match s with
  | '[' :: r => bracketed? r
  | _ =>
    if s.any (fun c => c ≠ '%' && isForbiddenInHost c) then none
    else some (encode (fun c => 0x20 ≤ c.toNat && c.toNat ≤ 0x7E) s)

/-- The port behind a host: none when it is missing or the scheme's own, and no answer when it is
not a port. -/
def port? (own : Option Nat) : List Char → Option (Option Nat)
  | [] => some none
  | ':' :: [] => some none
  | ':' :: s =>
    match Decimal.natural? s with
    | none => none
    | some n => if 65535 < n then none else some (if own = some n then none else some n)
  | _ => none

/-- Host and port in front of the colon that separates them; a colon within brackets does not. -/
def splitPort (s : List Char) : List Char × List Char :=
  match s with
  | '[' :: _ =>
    let inside := s.takeWhile (· != ']')
    (inside ++ (s.drop inside.length).take 1, s.drop (inside.length + 1))
  | _ => s.span (· != ':')

/-- Host and port of an authority, as text. -/
def hostAndPort? (host : List Char → Option (List Char)) (own : Option Nat) (s : List Char) :
    Option String := do
  let (name, rest) := splitPort s
  let name ← host name
  match ← port? own rest with
  | none => some (String.ofList name)
  | some n => some (String.ofList (name ++ ':' :: Decimal.numeral n))

end Shoreline.Url
