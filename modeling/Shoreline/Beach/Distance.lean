import Shoreline.Beach
import Shoreline.Decimal.Layout

/-!
# `Shoreline.Beach.Distance` — how far away a beach is

Distances are great-circle distances on a sphere with the mean radius of the earth, by the haversine
formula. A beach without both coordinates has no distance; a position that is no place has a distance
that is no number.
-/

namespace Shoreline

/-- The mean radius of the earth in metres. -/
def earthRadius : Float := 6371008.8

/-- Degrees as radians. -/
def radians (degrees : Float) : Float := degrees * (3.141592653589793 / 180.0)

/-- The square of a number. -/
def square (x : Float) : Float := x * x

/-- The great-circle distance in metres between two places given in degrees. -/
def greatCircle (latA lngA latB lngB : Float) : Float :=
  let rise := radians (latB - latA)
  let turn := radians (lngB - lngA)
  let half := square (Float.sin (rise / 2)) +
    Float.cos (radians latA) * Float.cos (radians latB) * square (Float.sin (turn / 2))
  earthRadius * (2 * Float.asin (Float.sqrt half))

/-- The distance of a beach in kilometres, if its coordinates are known. -/
def Beach.distanceKm (b : Beach) (here : Position) : Option Float :=
  match b.latitude, b.longitude with
  | some lat, some lng => some (greatCircle here.lat here.lng lat.value lng.value / 1000)
  | _, _ => none

end Shoreline
