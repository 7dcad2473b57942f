import Shoreline.Json.Decoder
import Shoreline.Time.Rfc3339

/-!
# `Shoreline.Reservation` — visits that were reserved

The server keeps reservations, the device keeps a list of the visits that were reserved from it. The
two know each other by id only.

## Contents
- `Congestion`: how crowded an hour of the calendar is.
- `Reservation`: a reservation as the server describes it.
- `Visit`: a reserved visit as the device keeps it, with its written form.
-/

namespace Shoreline

open Json Time

/-! ## Congestion -/

/-- How crowded an hour of the calendar is. -/
inductive Congestion
  | free | normal | busy
deriving DecidableEq, Repr, Inhabited

namespace Congestion

/-- The name of a level. -/
def name : Congestion → String
  | free => "free"
  | normal => "normal"
  | busy => "busy"

/-- The level of a name. -/
def named? : String → Option Congestion
  | "free" => some free
  | "normal" => some normal
  | "busy" => some busy
  | _ => none

/-- The Korean label. -/
def label : Congestion → String
  | free => "여유"
  | normal => "보통"
  | busy => "혼잡"

/-- A level as a record. -/
def decoder : Decoder Congestion := Decoder.oneOf named?

theorem named?_name (c : Congestion) : named? c.name = some c := by cases c <;> rfl

end Congestion

/-! ## Reservations -/

/-- A reservation as the server describes it. -/
structure Reservation where
  id : String
  status : String
  /-- The time of the visit, as the server wrote it. -/
  reservedAt : String
  beachId : String
  eventId : Option String
  createdAt : String
deriving DecidableEq, Repr

namespace Reservation

/-- Any value where a text is wanted. -/
def loose : Decoder String := fun room d => (Decoder.value room d).map Value.asText

/-- A reservation: only the id must be there; ids and times may be of any type. -/
def decoder : Decoder Reservation := fun room d => do
  let row ← d.row?
    ["reservationId", "status", "reservedAtUtc", "beachId", "eventId", "createdAtUtc"] room
  return {
    id := ← row.required "reservationId" loose
    status := ← row.orElse "status" "" Decoder.text
    reservedAt := ← row.orElse "reservedAtUtc" "" loose
    beachId := ← row.orElse "beachId" "" loose
    eventId := ← row.orElse "eventId" none Decoder.text.nullable
    createdAt := ← row.orElse "createdAtUtc" "" loose
  }

end Reservation

/-! ## Visits -/

/-- A reserved visit, as the device keeps it. -/
structure Visit where
  id : String
  reservationId : Option String
  beachId : Option String
  beachName : String
  /-- The local date. -/
  date : Date
  /-- The local hour. -/
  hour : Nat
  status : Congestion
  createdAt : Instant
deriving DecidableEq, Repr

namespace Visit

/-- A visit as a record. The ids of the server's side may be missing. -/
def decoder : Decoder Visit := fun room d => do
  let row ← d.row?
    ["id", "reservationId", "beachId", "beachName", "date", "hour", "status", "createdAt"] room
  return {
    id := ← row.required "id" Decoder.text
    reservationId := ← row.orElse "reservationId" none Decoder.text.nullable
    beachId := ← row.orElse "beachId" none Decoder.text.nullable
    beachName := ← row.required "beachName" Decoder.text
    date := ← row.required "date" (Decoder.named Date.parse?)
    hour := ← row.required "hour" Decoder.word32
    status := ← row.required "status" Congestion.decoder
    createdAt := ← row.required "createdAt" (Decoder.named Instant.parse?)
  }

/-- A visit as a JSON value. -/
def toValue (v : Visit) : Value :=
  .obj [("id", .str v.id), ("reservationId", .optionStr v.reservationId),
    ("beachId", .optionStr v.beachId), ("beachName", .str v.beachName), ("date", .str v.date.iso),
    ("hour", .int v.hour), ("status", .str v.status.name), ("createdAt", .str (writeShort v.createdAt))]

/-- The local day of the visit lies in a month. -/
def isIn (v : Visit) (year : Int) (month : Nat) : Bool := v.date.year == year && v.date.month == month

end Visit

end Shoreline
