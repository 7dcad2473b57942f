import Shoreline.Text.Hex
import Shoreline.Text.Utf8

/-!
# `Shoreline.Url.Percent` — percent-encoding

A character that may not stand in a part of an address is written as its UTF-8 bytes, each as `%`
and two hexadecimal digits. Which characters stand for themselves depends on the part: `encode` takes
them as a set.

## Contents
- `encodeByte`, `encode`: writing; `decodeBytes`: reading.
- `isUnreserved`, `segment`: any text as one segment of a path.
-/

namespace Shoreline.Url

open Shoreline.Text

/-- A byte as `%` and two digits. -/
def encodeByte (b : UInt8) : List Char := ['%', upperHex (b.toNat / 16), upperHex (b.toNat % 16)]

/-- Write the characters of a set as they are and all others as their bytes. -/
def encode (plain : Char → Bool) (s : List Char) : List Char :=
  s.flatMap fun c => if plain c then [c] else (String.utf8EncodeChar c).flatMap encodeByte

/-- The bytes of a text in which `%` and two digits stand for the byte that they write. -/
def decodeBytes : List Char → List UInt8
  | '%' :: a :: b :: s =>
    match hexValue? a, hexValue? b with
    | some m, some n => (m * 16 + n).toUInt8 :: decodeBytes s
    | _, _ => 0x25 :: decodeBytes (a :: b :: s)
  | c :: s => String.utf8EncodeChar c ++ decodeBytes s
  | [] => []

/-- The characters that stand for themselves everywhere in an address. -/
def isUnreserved (c : Char) : Bool := c.isAlphanum || c = '-' || c = '_' || c = '.' || c = '~'

/-- A text as one segment of a path. -/
def segment (s : String) : String := String.ofList (encode isUnreserved s.toList)

/-- Characters of the set need no encoding. -/
theorem encode_eq_self {plain : Char → Bool} {s : List Char} (h : ∀ c ∈ s, plain c = true) :
    encode plain s = s := by
  induction s with
  | nil => rfl
  | cons c s ih =>
    have hs : encode plain s = s := ih fun d hd => h d (List.mem_cons_of_mem c hd)
    have hc : plain c = true := h c List.mem_cons_self
    unfold encode at hs ⊢
    rw [List.flatMap_cons, if_pos hc, hs]
    rfl

end Shoreline.Url
