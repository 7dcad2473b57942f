/-!
# `Shoreline.Text.Utf8` — texts out of bytes

Bodies arrive as bytes. `decodeLossy` reads them as UTF-8 and puts U+FFFD where that is impossible:
one for each longest beginning of a character that breaks off, one for each byte that begins none.
`decode?` reads bytes that are UTF-8 throughout and refuses all others.
-/

namespace Shoreline.Text

/-- A byte that continues a character. -/
def isContinuation (b : UInt8) : Bool := 0x80 ≤ b && b ≤ 0xBF

/-- A first byte: how many bytes follow it, the bounds of the next one, and its share of the code
point. `none` where no character begins. -/
def leadByte? (b : UInt8) : Option (Nat × UInt8 × UInt8 × Nat) :=
  if b < 0x80 then some (0, 0x80, 0xBF, b.toNat)
  else if b < 0xC2 then none
  else if b < 0xE0 then some (1, 0x80, 0xBF, b.toNat - 0xC0)
  else if b < 0xF0 then
    some (2, if b = 0xE0 then 0xA0 else 0x80, if b = 0xED then 0x9F else 0xBF, b.toNat - 0xE0)
  else if b < 0xF5 then
    some (3, if b = 0xF0 then 0x90 else 0x80, if b = 0xF4 then 0x8F else 0xBF, b.toNat - 0xF0)
  else none

/-- The character whose first byte stands before `s`, or `none` if it breaks off, and the bytes
behind it. -/
def continueChar (owed : Nat) (least greatest : UInt8) (point : Nat) :
    List UInt8 → Option Char × List UInt8
  | [] => (if owed = 0 then some (Char.ofNat point) else none, [])
  | b :: s =>
    if owed = 0 then (some (Char.ofNat point), b :: s)
    else if least ≤ b && b ≤ greatest then
      continueChar (owed - 1) 0x80 0xBF (point * 64 + (b.toNat - 0x80)) s
    else (none, b :: s)

theorem continueChar_length (owed : Nat) (least greatest : UInt8) (point : Nat) (s : List UInt8) :
    (continueChar owed least greatest point s).2.length ≤ s.length := by
  induction s generalizing owed least greatest point with
  | nil => simp [continueChar]
  | cons b s ih =>
    rw [continueChar]
    split
    · simp
    · split
      · exact Nat.le_succ_of_le (ih ..)
      · simp

/-- The characters of bytes, with `none` where they are no UTF-8. -/
def decodeChars : List UInt8 → List (Option Char)
  | [] => []
  | b :: s =>
    match leadByte? b with
    | none => none :: decodeChars s
    | some (owed, least, greatest, point) =>
      (continueChar owed least greatest point s).1 ::
        decodeChars (continueChar owed least greatest point s).2
termination_by s => s.length
decreasing_by
  · simp
  · have := continueChar_length owed least greatest point s
    simp only [List.length_cons]
    omega

/-- The text of bytes, with U+FFFD where they are no UTF-8. -/
def decodeLossy (bytes : List UInt8) : String :=
  String.ofList ((decodeChars bytes).map (·.getD (Char.ofNat 0xFFFD)))

/-- The text of bytes that are UTF-8. -/
def decode? (bytes : List UInt8) : Option String :=
  ((decodeChars bytes).mapM id).map String.ofList

/-- Where bytes have a text, they are no more and no less than its characters. -/
theorem decodeChars_of_decode? {bytes : List UInt8} {s : String} (h : decode? bytes = some s) :
    decodeChars bytes = s.toList.map some := by
  have hall : ∀ (l : List (Option Char)) cs, l.mapM id = some cs → l = cs.map some := by
    intro l
    induction l with
    | nil =>
      rintro cs ⟨⟩
      rfl
    | cons c l ih =>
      intro cs hcs
      rw [List.mapM_cons] at hcs
      obtain ⟨d, hd, hrest⟩ := Option.bind_eq_some_iff.mp hcs
      obtain ⟨ds, hds, hcons⟩ := Option.bind_eq_some_iff.mp hrest
      obtain rfl := Option.some.inj hcons
      rw [ih ds hds, List.map_cons]
      exact congrArg (· :: _) hd
  unfold decode? at h
  obtain ⟨cs, hcs, rfl⟩ := Option.map_eq_some_iff.mp h
  rw [String.toList_ofList]
  exact hall _ cs hcs

/-- The bytes of a text. -/
def encode (s : String) : List UInt8 := s.toList.flatMap String.utf8EncodeChar

end Shoreline.Text
