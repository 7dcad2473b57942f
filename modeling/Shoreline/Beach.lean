import Shoreline.Decimal.Reading
import Shoreline.Json.Decoder
import Shoreline.Text.Blank
import Shoreline.Text.Lowercase
import Shoreline.Text.Search

/-!
# `Shoreline.Beach` — beaches and how they are read

What the server says about a beach drifts: ids come as numbers, coordinates as texts, the status
takes new values. So no member of a beach can spoil the reading of it; each one that makes no sense
falls back on a value of its own. A coordinate is finite or missing, never anything else.

## Contents
- `Crowding`: how crowded a beach is said to be.
- `Degrees`, `Position`: a finite coordinate, and the place of the device.
- `Beach` with `Beach.decoder` and `Beach.toValue`; `Beach.listOf` reads a list.
- `Beach.matchesQuery`: the search in names and codes.
-/

namespace Shoreline

open Text Json

/-! ## Crowding -/

/-- How crowded a beach is said to be. -/
inductive Crowding
  | free | normal | busy | unknown
deriving DecidableEq, Repr, Inhabited

namespace Crowding

/-- The name of a level. -/
def name : Crowding → String
  | free => "free"
  | normal => "normal"
  | busy => "busy"
  | unknown => "unknown"

/-- The level of a name in any case. An open beach counts as normal; every name that is not known
counts as unknown. -/
def ofText (raw : String) : Crowding :=
  match lowerAscii (trim raw) with
  | "free" => free
  | "normal" => normal
  | "open" => normal
  | "busy" => busy
  | _ => unknown

/-- The level that a value stands for; only a text stands for one that is known. -/
def ofValue : Value → Crowding
  | .str s => ofText s
  | _ => unknown

end Crowding

/-! ## Places -/

/-- A coordinate in degrees that is a number. -/
structure Degrees where
  value : Float
  finite : value.isFinite = true

namespace Degrees

/-- The coordinate of a double, unless it is infinite or no number. -/
def of? (f : Float) : Option Degrees := if h : f.isFinite = true then some ⟨f, h⟩ else none

/-- The coordinate that a value stands for: a number, or a text that holds one. -/
def ofValue? : Value → Option Degrees
  | .num n => of? n.toFloat
  | .str s =>
    match Decimal.float (trim s).toList with
    | .ok f => of? f
    | .error _ => none
  | _ => none

/-- A coordinate as a JSON value; a missing one is null. -/
def toValue : Option Degrees → Value
  | some d => .num (.float d.value)
  | none => .null

theorem of?_value (d : Degrees) : of? d.value = some d := by
  unfold of?
  rw [dif_pos d.finite]

/-- A coordinate that was written is read back as it was. -/
theorem ofValue?_toValue (d : Option Degrees) : ofValue? (toValue d) = d := by
  cases d with
  | none => rfl
  | some d => exact of?_value d

end Degrees

/-- Where the device is, in degrees. Devices may report anything. -/
structure Position where
  lat : Float
  lng : Float
deriving Inhabited

namespace Position

/-- A position as a record. -/
def decoder : Decoder Position := fun room d => do
  let row ← d.row? ["lat", "lng"] room
  return ⟨← row.required "lat" Decoder.float, ← row.required "lng" Decoder.float⟩

/-- A position as a JSON value. -/
def toValue (p : Position) : Value := .obj [("lat", .float p.lat), ("lng", .float p.lng)]

/-- The same place, number by number. -/
def same (p q : Position) : Bool := p.lat == q.lat && p.lng == q.lng

end Position

/-! ## Beaches -/

/-- A beach as the server describes it. -/
structure Beach where
  id : String
  /-- The short name by which lists of beaches refer to it, e.g. `HAEUNDAE`. -/
  code : String
  name : String
  status : Crowding
  latitude : Option Degrees
  longitude : Option Degrees
  updatedAt : Option String
  tag : Option String
  isFavorite : Bool

namespace Beach

/-- The members of a beach in their order. -/
def members : List String :=
  ["id", "code", "name", "status", "latitude", "longitude", "updatedAt", "tag", "isFavorite"]

/-- A beach in which every member may be missing or of any type. -/
def decoder : Decoder Beach := fun room d => do
  let row ← d.row? members room
  let id ← row.orElse "id" .null Decoder.value
  let code ← row.orElse "code" .null Decoder.value
  let name ← row.orElse "name" .null Decoder.value
  let status ← row.orElse "status" .null Decoder.value
  let latitude ← row.orElse "latitude" .null Decoder.value
  let longitude ← row.orElse "longitude" .null Decoder.value
  let updatedAt ← row.orElse "updatedAt" .null Decoder.value
  let tag ← row.orElse "tag" .null Decoder.value
  let isFavorite ← row.orElse "isFavorite" .null Decoder.value
  return {
    id := id.asText
    code := code.asText
    name := name.asText
    status := Crowding.ofValue status
    latitude := Degrees.ofValue? latitude
    longitude := Degrees.ofValue? longitude
    updatedAt := updatedAt.asString?
    tag := tag.asString?
    isFavorite := isFavorite.isTruthy
  }

/-- A beach as a JSON value. The time of the last change is left out when it is not known. -/
def toValue (b : Beach) : Value :=
  .obj <|
    [("id", .str b.id), ("code", .str b.code), ("name", .str b.name), ("status", .str b.status.name),
      ("latitude", Degrees.toValue b.latitude), ("longitude", Degrees.toValue b.longitude)] ++
    (match b.updatedAt with
      | some t => [("updatedAt", .str t)]
      | none => []) ++
    [("tag", .optionStr b.tag), ("isFavorite", .bool b.isFavorite)]

/-- The beaches of an array; items that are no records are left out, and anything else than an array
holds no beaches. -/
def listOf : Value → List Beach
  | .arr items => items.filterMap decoder.fromValue?
  | _ => []

/-- The needle, which must be in small letters already, occurs in the name or in the code, whatever
their case. -/
def matchesQuery (b : Beach) (needle : String) : Bool :=
  contains (lowercase b.name) needle || contains (lowercase b.code) needle

end Beach

end Shoreline
