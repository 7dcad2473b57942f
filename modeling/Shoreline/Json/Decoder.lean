import Shoreline.Json.Reader

/-!
# `Shoreline.Json.Decoder` — records out of JSON

A decoder reads a value of some type out of a document, given how many levels of nesting are left
for what it keeps. Records are read through a `Row`: one slot for each known field. An object fills
the slots by name, ignores other members and may not name a known field twice; an array fills them
in the order of the fields and may be shorter but not longer. The two differ in what an empty slot
means: a field that may be missing from an object (`optional`) must still be there in an array,
unless it has a default.

## Contents
- `Decoder`, with the decoders of plain values.
- `Row`, `Document.row?`, and the ways to read a slot: `required`, `optional`, `orElse`.
- `Decoder.fromText?`, `Decoder.fromBytes?` and `Decoder.fromValue?` run a decoder.
-/

namespace Shoreline.Json

/-- A way to read an `α` out of a document while `room` levels of nesting are left. -/
abbrev Decoder (α : Type) := (room : Nat) → Document → Option α

namespace Decoder

/-- A string. -/
def text : Decoder String
  | _, .str s => s
  | _, _ => none

/-- A truth value. -/
def flag : Decoder Bool
  | _, .bool b => some b
  | _, _ => none

/-- A whole number between two bounds. -/
def whole (least greatest : Int) : Decoder Int
  | _, .num (some (.int i)) => if least ≤ i ∧ i ≤ greatest then some i else none
  | _, _ => none

/-- A whole number of 64 bits with sign. -/
def int64 : Decoder Int := whole (-0x8000000000000000) 0x7FFFFFFFFFFFFFFF

/-- A whole number of 32 bits without sign. -/
def word32 : Decoder Nat := fun room d => (whole 0 0xFFFFFFFF room d).map Int.toNat

/-- Any number, as a double. -/
def float : Decoder Float
  | _, .num (some n) => some n.toFloat
  | _, _ => none

/-- Any value. -/
def value : Decoder Value := fun room d => d.keep room

/-- A value or null. -/
def nullable {α : Type} (inner : Decoder α) : Decoder (Option α)
  | _, .null => some none
  | room, d => (inner room d).map some

/-- An array, item by item. -/
def list {α : Type} (inner : Decoder α) : Decoder (List α)
  | 0, _ => none
  | room + 1, .arr items => items.mapM (inner room)
  | _ + 1, _ => none

/-- An object as a map; of members with one key the last counts. -/
def map {α : Type} (inner : Decoder α) : Decoder (Text.SortedMap α)
  | 0, _ => none
  | room + 1, .obj members =>
    (members.mapM (m := Option) fun m =>
      m.1.bind fun k => (inner room m.2).map fun v => (k, v)).map Text.SortedMap.ofList
  | _ + 1, _ => none

/-- A text with a meaning. -/
def named {α : Type} (meaning : String → Option α) : Decoder α :=
  fun room d => (text room d).bind meaning

/-- One of several names: a string, or an object whose only member has that name and is null. -/
def oneOf {α : Type} (meaning : String → Option α) : Decoder α
  | room, .str s => named meaning room (.str s)
  | _ + 1, .obj [(some k, .null)] => meaning k
  | _, _ => none

end Decoder

/-! ## Rows -/

/-- What stands for one field of a record. -/
inductive FieldSlot
  /-- A document stands there. -/
  | given (d : Document)
  /-- The object has no such member. -/
  | missing
  /-- The array ends before it. -/
  | cut

/-- The slots of a record's fields, and the room that is left inside the record. -/
structure Row where
  slots : List (String × FieldSlot)
  room : Nat

/-- The member with a name, or a fault if there are two. -/
def findMember (name : String) (members : List (Option String × Document)) : Option FieldSlot :=
  match members.filter (fun m => m.1 == some name) with
  | [] => some .missing
  | [m] => some (.given m.2)
  | _ => none

/-- Slots filled from items in order; a fault if items are left over. -/
def fillSlots : List String → List Document → Option (List (String × FieldSlot))
  | [], [] => some []
  | [], _ :: _ => none
  | name :: names, [] => (fillSlots names []).map ((name, .cut) :: ·)
  | name :: names, d :: rest => (fillSlots names rest).map ((name, .given d) :: ·)

/-- The row of a record with the given fields. -/
def Document.row? (names : List String) (room : Nat) : Document → Option Row
  | .obj members =>
    match room with
    | 0 => none
    | room + 1 =>
      if members.any (·.1.isNone) then none
      else
        (names.mapM (m := Option) fun name =>
          (findMember name members).map (name, ·)).map (⟨·, room⟩)
  | .arr items =>
    match room with
    | 0 => none
    | room + 1 => (fillSlots names items).map (⟨·, room⟩)
  | _ => none

namespace Row

/-- The slot of a field. -/
def slot (r : Row) (name : String) : FieldSlot := (r.slots.lookup name).getD .missing

/-- A field that must be there. -/
def required {α : Type} (r : Row) (name : String) (d : Decoder α) : Option α :=
  match r.slot name with
  | .given doc => d r.room doc
  | _ => none

/-- A field that may be null or missing from an object. -/
def optional {α : Type} (r : Row) (name : String) (d : Decoder α) : Option (Option α) :=
  match r.slot name with
  | .given doc => d.nullable r.room doc
  | .missing => some none
  | .cut => none

/-- A field with a default. -/
def orElse {α : Type} (r : Row) (name : String) (default : α) (d : Decoder α) : Option α :=
  match r.slot name with
  | .given doc => d r.room doc
  | _ => some default

end Row

/-! ## Running a decoder -/

namespace Decoder

variable {α : Type}

/-- Read a text. -/
def fromText? (d : Decoder α) (s : String) : Option α :=
  (Document.read? s.toList).bind (d maxNesting)

/-- Read the bytes of a text. -/
def fromBytes? (d : Decoder α) (bytes : List UInt8) : Option α :=
  (Document.readBytes? bytes).bind (d maxNesting)

/-- Bytes that are UTF-8 are read as their text. -/
theorem fromBytes?_of_decode? (d : Decoder α) {bytes : List UInt8} {s : String}
    (h : Text.decode? bytes = some s) : d.fromBytes? bytes = d.fromText? s := by
  have hcharacters : (Text.decodeChars bytes).flatMap (fun c => c.elim spoiled ([·])) = s.toList := by
    rw [Text.decodeChars_of_decode? h, List.flatMap_map]
    exact List.flatMap_singleton' s.toList
  unfold fromBytes? fromText? Document.readBytes?
  rw [hcharacters]

/-- A string that is no UTF-8 can be passed over but not read. -/
example : Decoder.text.fromBytes? [0x22, 0xFF, 0x22] = none ∧
    (Document.readBytes? [0x5B, 0x22, 0xFF, 0x22, 0x5D]).isSome = true := by decide +kernel

/-- Read a value, however deep it is. -/
def fromValue? (d : Decoder α) (v : Value) : Option α :=
  let doc := v.toDocument
  d (v.depth + 1) doc

end Decoder

end Shoreline.Json
