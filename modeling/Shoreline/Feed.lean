import Shoreline.Beach.Distance
import Shoreline.Failure

/-!
# `Shoreline.Feed` — the beaches around the device

Each new position fetches the beaches around it. A newer position, or `cancel`, calls off the fetch
that is under way, and the answer to a fetch that was called off changes nothing: the last position
wins. Fetches are told apart by tickets, numbered in the order in which they start.

## Contents
- `Location`, `Feed`, `Feed.Phase`, `Feed.Outcome`.
- `Feed.locate`: a report about the location, which may start a fetch; `Feed.retry`.
- `Feed.deliver`: the result of a fetch arrives; `Feed.cancel`.
- `Feed.select`, `Feed.mark`, `Feed.distanceKm`.
-/

namespace Shoreline

/-- What is known about the location of the device. -/
inductive Location
  /-- Nothing yet. -/
  | pending
  /-- The user refused to share it. -/
  | denied
  | granted (here : Position)

/-- The number of a fetch. -/
abbrev Ticket := Nat

/-- The beaches around the device, and the fetch for more of them. -/
structure Feed where
  location : Option Location := none
  /-- The position of the fetch that started last, unless it has failed or was called off. -/
  fetchedAt : Option Position := none
  beaches : List Beach := []
  /-- The beach that is being looked at. -/
  current : Option Beach := none
  loading : Bool := false
  /-- What to say about the last fetch, if it failed. -/
  error : Option String := none
  /-- The fetch under way. -/
  inFlight : Option Ticket := none
  /-- How many fetches have been started. -/
  started : Nat := 0
  /-- The fetches that were called off. -/
  calledOff : List Ticket := []
deriving Inhabited

namespace Feed

/-- What there is to show. -/
inductive Phase
  /-- There is no position yet. -/
  | locating
  /-- The user has to allow one. -/
  | permission
  | loading
  | ready
  | failed (message : String)
deriving DecidableEq, Repr

/-- What became of a report or a fetch. -/
inductive Outcome
  /-- So many beaches were fetched. -/
  | loaded (count : Nat)
  /-- The fetch was called off; nothing changed. -/
  | cancelled
  /-- There was nothing to fetch. -/
  | skipped
  | failed (message : String)
deriving DecidableEq, Repr

/-- What is said about a fetch that failed without an answer of the server. -/
def failedMessage : String := "해수욕장 정보를 불러오지 못했습니다."

/-- What is said about a fetch that failed. -/
def messageOf : Failure → String
  | .refused r => "API Error: " ++ String.ofList (Decimal.numeral r.status)
  | _ => failedMessage

/-! ## Fetches -/

/-- Call off the fetch under way. -/
def callOff (f : Feed) : Feed :=
  match f.inFlight with
  | some t => { f with inFlight := none, calledOff := t :: f.calledOff }
  | none => f

/-- Start a fetch for a position. -/
def launch (f : Feed) (here : Position) : Feed × Ticket :=
  let f := f.callOff
  ({ f with
      inFlight := some f.started, started := f.started + 1, fetchedAt := some here,
      loading := true, error := none },
    f.started)

/-- The last fetch was for this place. -/
def isAt (f : Feed) (here : Position) : Bool :=
  match f.fetchedAt with
  | some p => p.same here
  | none => false

/-- Take note of a location. A position that is new starts a fetch; its ticket and the position are
returned. -/
def locate (f : Feed) (l : Location) : Feed × Option (Ticket × Position) :=
  let noted := { f with location := some l }
  match l with
  | .granted here =>
    if f.isAt here then (noted, none)
    else
      let (launched, ticket) := noted.launch here
      (launched, some (ticket, here))
  | _ => (noted, none)

/-- The feed that will fetch again even at the same place. -/
def forgetPlace (f : Feed) : Feed := { f with fetchedAt := none }

/-- Fetch again at the location that is known, if there is one. -/
def retry (f : Feed) : Feed × Option (Ticket × Position) :=
  match f.location with
  | some l => f.forgetPlace.locate l
  | none => (f.forgetPlace, none)

/-- The result of a fetch arrives. The result of one that was called off is dropped; after a failure
the same place is fetched again. -/
def deliver (f : Feed) (ticket : Ticket) (result : Except Failure (List Beach)) : Feed × Outcome :=
  if f.calledOff.contains ticket then (f, .cancelled)
  else
    let f := { f with inFlight := none, loading := false }
    match result with
    | .ok beaches =>
      ({ f with beaches := beaches, current := f.current.or beaches.head? }, .loaded beaches.length)
    | .error .cancelled => (f, .cancelled)
    | .error e =>
      ({ f with fetchedAt := none, error := some (messageOf e) }, .failed (messageOf e))

/-- Nobody looks at the feed any more: call off the fetch under way. The same place will be fetched
again. -/
def cancel (f : Feed) : Feed :=
  match f.inFlight with
  | some _ => { f.callOff with loading := false, fetchedAt := none }
  | none => f.forgetPlace

/-! ## Looking -/

/-- What there is to show. -/
def phase (f : Feed) : Phase :=
  match f.location with
  | none | some .pending => .locating
  | some .denied => .permission
  | some (.granted _) =>
    if f.loading then .loading
    else
      match f.error with
      | some message => .failed message
      | none => .ready

/-- How far a beach is from the device, if its place and the device's are known. -/
def distanceKm (f : Feed) (b : Beach) : Option Float :=
  match f.location with
  | some (.granted here) => b.distanceKm here
  | _ => none

/-- Look at the beach with an id, if it is among those fetched. -/
def select (f : Feed) (id : String) : Feed × Bool :=
  match f.beaches.find? (·.id == id) with
  | some b => ({ f with current := some b }, true)
  | none => (f, false)

/-- The beach, marked if it has the id. -/
def markBeach (id : String) (isFavorite : Bool) (b : Beach) : Beach :=
  if b.id = id then { b with isFavorite := isFavorite } else b

@[simp] theorem markBeach_id (id : String) (isFavorite : Bool) (b : Beach) :
    (markBeach id isFavorite b).id = b.id := by
  unfold markBeach
  split <;> rfl

theorem markBeach_isFavorite (id : String) (isFavorite : Bool) (b : Beach) :
    (markBeach id isFavorite b).isFavorite = if b.id = id then isFavorite else b.isFavorite := by
  unfold markBeach
  split <;> rfl

/-- Mark the beaches with an id as favorites or not. -/
def mark (f : Feed) (id : String) (isFavorite : Bool) : Feed :=
  { f with
    beaches := f.beaches.map (markBeach id isFavorite)
    current := f.current.map (markBeach id isFavorite) }

end Feed

end Shoreline
