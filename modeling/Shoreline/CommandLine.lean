import Shoreline.Client.Operation

/-!
# `Shoreline.CommandLine` — one look at the beaches

The command line loads the settings and the store, logs in if it is told as whom, takes the position,
the curated list and the search from the environment, fetches the beaches around the position and
prints those that pass the filter, each with its distance. Whatever goes wrong on the way ends the run
with a complaint.

The exchange with the server is a parameter, so a run is a computation like any other.

## Contents
- `Complaint`, `Complaint.text`.
- `Surroundings`: what a run finds; `run`: the run.
- `report`: the beaches as they are printed.
-/

namespace Shoreline.CommandLine

open Text Json Http

/-! ## Complaints -/

/-- Why a run ended early: what was attempted, and what came in the way. -/
structure Complaint where
  attempt : String
  cause : Option String := none
deriving DecidableEq, Repr

/-- A text whose lines after the first are indented like the first. -/
def indented (s : String) : String :=
  "    " ++ String.ofList (s.toList.flatMap fun c => if c = '\n' then "\n    ".toList else [c])

/-- A complaint as it is printed. -/
def Complaint.text (c : Complaint) : String :=
  "Error: " ++ c.attempt ++
    match c.cause with
    | some cause => "\n\nCaused by:\n" ++ indented cause
    | none => ""

/-! ## The run -/

/-- The city hall of Busan, where one is when nothing else is said. -/
def cityHall : Position := ⟨35.1796, 129.0756⟩

/-- What a run finds around it. -/
structure Surroundings where
  /-- The environment, and what the settings file adds to it. -/
  env : Environment
  systemOffset : Time.Offset
  /-- What is found at a path. -/
  fileAt : String → FileText

/-- The settings. -/
def settings (s : Surroundings) : Except Complaint Settings :=
  (Settings.read s.env s.systemOffset).mapError fun fault =>
    ⟨"Failed to load configuration", some fault.message⟩

/-- The client on the store that the settings name. -/
def openClient (s : Surroundings) (settings : Settings) : Except Complaint Client :=
  match Store.open (s.fileAt settings.storagePath) with
  | .ok store => .ok (Client.opened settings store)
  | .error fault => .error ⟨"Failed to open " ++ settings.storagePath, some fault.message⟩

/-- A coordinate from the environment. -/
def coordinate (s : Surroundings) (name : String) (default : Float) : Except Complaint Float :=
  match s.env.get? name with
  | none => .ok default
  | some raw =>
    (Decimal.float (trim raw).toList).mapError fun fault =>
      ⟨"Invalid " ++ name ++ ": " ++ raw, some fault.message⟩

/-- The position, the curated list and the search. -/
def choices (s : Surroundings) (c : Client) : Except Complaint (Client × Position) := do
  let lat ← coordinate s "BEACHCHECK_LAT" cityHall.lat
  let lng ← coordinate s "BEACHCHECK_LNG" cityHall.lng
  let c ←
    match s.env.get? "BEACHCHECK_TAG" with
    | none => .ok c
    | some raw =>
      match CuratedTag.ofText raw with
      | .ok tag => .ok (c.setTag (some tag))
      | .error name => .error ⟨CuratedTag.unknownMessage name, none⟩
  let c := ((s.env.get? "BEACHCHECK_QUERY").map c.setQuery).getD c
  return (c, ⟨lat, lng⟩)

/-- The first operation: log in, if it is said as whom, else load the favorites. -/
def opening (s : Surroundings) : Operation :=
  match s.env.get? "BEACHCHECK_EMAIL", s.env.get? "BEACHCHECK_PASSWORD" with
  | some email, some password => .logIn email password
  | _, _ => .start

/-- A log-in that failed ends the run. -/
def goesOn : Answer → Except Complaint Unit
  | .session (.error e) => .error ⟨e.message, none⟩
  | _ => .ok ()

/-- A fetch that failed ends the run. -/
def fetched : Answer → Except Complaint Unit
  | .feed (.failed message) => .error ⟨message, none⟩
  | _ => .ok ()

/-! ## The report -/

/-- A number to one place behind the point, a half away from zero. -/
def toTenth (x : Float) : Float := (x * 10).round / 10

/-- A beach as it is printed: with its distance in kilometres, if it is known. -/
def reportBeach (c : Client) (b : Beach) : Value :=
  match b.toValue, c.feed.distanceKm b with
  | .obj members, some km => (Value.obj (members ++ [("distanceKm", .float (toTenth km))])).normal
  | v, _ => v.normal

/-- The beaches that pass the filter, as they are printed. -/
def report (c : Client) : String := (Value.list (reportBeach c) c.visible).pretty

/-- How a run ended: the client, if there was one, and what is printed. -/
structure Ending where
  client : Option Client
  result : Except Complaint String

/-- Run from the settings to the report. -/
def run {m : Type → Type} [Monad m] (exchange : Sent → m Reply) (clock : m Int) (s : Surroundings) :
    m Ending := do
  match (settings s).bind (openClient s) with
  | .error complaint => return ⟨none, .error complaint⟩
  | .ok c =>
    let (c, answer) ← c.perform exchange clock (opening s)
    match (goesOn answer).bind fun _ => choices s c with
    | .error complaint => return ⟨some c, .error complaint⟩
    | .ok (c, here) =>
      let (c, answer) ← c.perform exchange clock (.locate (.granted here))
      match fetched answer with
      | .error complaint => return ⟨some c, .error complaint⟩
      | .ok _ => return ⟨some c, .ok (report c)⟩

end Shoreline.CommandLine
