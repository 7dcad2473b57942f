import Shoreline.Decimal.Reading
import Shoreline.Text.Blank
import Shoreline.Text.SortedMap
import Shoreline.Time.Instant

/-!
# `Shoreline.Settings` — what the client is told by its environment

Settings are read once, from environment variables. Two of them can be wrong, the offset of local
time and the search radius, and then nothing starts; the others fall back on a default.

## Contents
- `Environment`, `Settings`, `SettingsFault`.
- `parseOffset`: offsets such as `+09:00`.
- `Settings.read`: the settings of an environment.
-/

namespace Shoreline

open Text Time

/-- The variables of an environment. -/
abbrev Environment := SortedMap String

/-- What the client is told by its environment. -/
structure Settings where
  /-- The address of the server, to which the paths of its resources are appended. -/
  baseAddress : String
  /-- The file in which the client keeps its state. -/
  storagePath : String
  /-- How far around the device beaches are looked for, in kilometres. -/
  searchRadius : Float
  /-- After how many seconds a request is given up. -/
  requestTimeout : Nat
  /-- The offset of local time, for the days of the calendar and the hours of visits. -/
  localOffset : Offset
  /-- Whether a user who is not logged in may keep favorites. -/
  guestFavorites : Bool

/-- A variable with a value that makes no sense. -/
structure SettingsFault where
  name : String
  value : String
deriving DecidableEq, Repr

/-- What is said about a variable with a value that makes no sense. -/
def SettingsFault.message (f : SettingsFault) : String :=
  "Invalid value for " ++ f.name ++ ": " ++ f.value

/-- The text without slashes at its end. -/
def trimSlashes (s : String) : String := trimEndWith (· = '/') s

/-! ## Offsets -/

/-- Hours and minutes as seconds: four digits, wherever colons stand among them. -/
def parseShift (s : List Char) : Option Int :=
  match s.filter (· != ':') with
  | [a, b, c, d] =>
    if [a, b, c, d].all Char.isDigit then
      some ((Decimal.value [a, b] * 3600 + Decimal.value [c, d] * 60 : Nat) : Int)
    else none
  | _ => none

/-- An offset as text: `Z` or `UTC` in any case, or a sign with hours and minutes. -/
def parseOffset (raw : String) : Option Offset :=
  let s := trim raw
  if lowerAscii s = "z" ∨ lowerAscii s = "utc" then some Offset.utc
  else
    match s.toList with
    | '+' :: rest => (parseShift rest).bind Offset.of?
    | '-' :: rest => (parseShift rest).bind fun shift => Offset.of? (-shift)
    | _ => none

/-! ## Reading the environment -/

/-- A number of seconds of 64 bits, with a plus in front or not. -/
def parseSeconds (s : String) : Option Nat :=
  let digits :=
    match s.toList with
    | '+' :: rest => rest
    | rest => rest
  (Decimal.natural? digits).filter (· < 0x10000000000000000)

/-- The words that refuse. -/
def isRefusal (s : String) : Bool := ["0", "false", "no"].contains (lowerAscii (trim s))

namespace Settings

/-- The settings of an environment on a system with its own offset. -/
def read (env : Environment) (systemOffset : Offset) : Except SettingsFault Settings := do
  let localOffset ←
    match env.get? "LOCAL_UTC_OFFSET" with
    | none => .ok systemOffset
    | some raw => (parseOffset raw).elim (.error ⟨"LOCAL_UTC_OFFSET", raw⟩) .ok
  let searchRadius ←
    match env.get? "SEARCH_RADIUS_KM" with
    | none => .ok 50.0
    | some raw =>
      match Decimal.float raw.toList with
      | .ok radius => .ok radius
      | .error _ => .error ⟨"SEARCH_RADIUS_KM", raw⟩
  return {
    baseAddress :=
      ((env.get? "API_BASE_URL").map fun s => trimSlashes (trim s)).getD "http://localhost:8080"
    storagePath := (env.get? "STORAGE_PATH").getD "beachcheck_storage.json"
    searchRadius := searchRadius
    requestTimeout := ((env.get? "REQUEST_TIMEOUT_SECS").bind parseSeconds).getD 15
    localOffset := localOffset
    guestFavorites := !((env.get? "GUEST_FAVORITES").map isRefusal).getD false
  }

end Settings

end Shoreline
