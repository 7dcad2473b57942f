import Shoreline.Api
import Shoreline.Calendar.View
import Shoreline.Text.Quoted

/-!
# `Shoreline.Calendar.Booking` — reserving the selected slot

The slot that is selected in a calendar is reserved at a beach if a user is logged in, the slot lies
in the future and the server agrees. Here are the guards in front of the request, what is asked for,
and what is made of the reply.

## Contents
- `BookingTarget`, `BookingFault`.
- `Booking`, and `Booking.prepare`: the guards in their order.
- `Booking.visit`, `BookingNotice`: what is kept and shown after success.
-/

namespace Shoreline

open Text Time

/-- What is to be reserved. -/
structure BookingTarget where
  beachId : Option String
  beachName : String
  /-- The event the visit is for; a blank id is none. -/
  eventId : Option String
deriving DecidableEq, Repr

/-- Why no visit was reserved. -/
inductive BookingFault
  | loginRequired
  | noDate
  | noBeach
  | past
  | invalidTime
  /-- The server no longer accepts the access token. -/
  | sessionExpired
  /-- The server refuses, for a reason that may have a name. -/
  | rejected (code : Option String) (message : String)
  | failed (failure : Failure)

namespace BookingFault

/-- The prompt that is shown to users who are not logged in. -/
def loginPrompt : String := "로그인이 필요합니다."

/-- What is said about a time that has passed. -/
def pastMessage : String := "현재 시각 이후만 예약할 수 있어요."

/-- What is said about a time that makes no sense. -/
def invalidTimeMessage : String := "날짜/시간 형식을 확인해 주세요."

/-- What is said when there is nothing better to say. -/
def failedMessage : String := "예약에 실패했어요."

/-- The name of a reason in a message, or the absence of one. -/
def writeCode : Option String → String
  | none => "None"
  | some code => "Some(" ++ quoted code ++ ")"

/-- The text of a fault. -/
def message : BookingFault → String
  | loginRequired => "Login required"
  | noDate => "No date selected"
  | noBeach => "No beach id"
  | past => "Reservation time is not in the future"
  | invalidTime => "Invalid local time"
  | sessionExpired => "Session expired"
  | rejected code said => "Rejected (" ++ writeCode code ++ "): " ++ said
  | failed failure => failure.message

/-- What to tell the user. -/
def userMessage : BookingFault → String
  | loginRequired => loginPrompt
  | sessionExpired => loginPrompt
  | noDate => "날짜를 먼저 선택해 주세요."
  | noBeach => "해수욕장 정보가 없습니다."
  | past => pastMessage
  | invalidTime => invalidTimeMessage
  | rejected _ said => said
  | failed _ => failedMessage

/-- What to tell the user about a refusal: a text for each reason that is known, else what the server
says. -/
def refusalMessage (r : Refusal) : String :=
  match r.code with
  | some "RESERVATION_PAST_TIME" => pastMessage
  | some "RESERVATION_INVALID_TIME" => invalidTimeMessage
  | some "RESERVATION_DUPLICATE" => "예약이 중복되었습니다."
  | some "BEACH_NOT_FOUND" => "해수욕장을 찾을 수 없어요."
  | _ => if isBlankText r.message then failedMessage else r.message

/-- The fault of a failed request. -/
def ofFailure : Failure → BookingFault
  | .refused r =>
    if r.isUnauthorized then sessionExpired else rejected r.code (refusalMessage r)
  | failure => failed failure

end BookingFault

/-! ## Asking -/

/-- A visit that is being reserved. -/
structure Booking where
  beachId : String
  beachName : String
  eventId : Option String
  slot : Slot
  /-- When the visit begins. -/
  start : Instant
  /-- When it is reserved. -/
  now : Instant

namespace Booking

/-- The id without blanks around it, unless that leaves nothing. -/
def meaningful (id : Option String) : Option String := (id.map trim).filter (!·.isEmpty)

/-- The booking of a selected slot, if it can be asked for: a date is selected, there is a beach, the
local time exists and lies in the future. The first of these that fails is the fault. -/
def prepare (view : Calendar.View) (offset : Offset) (target : BookingTarget) (now : Instant) :
    Except BookingFault Booking := do
  let slot ← view.selected.elim (.error .noDate) .ok
  let beachId ← (meaningful target.beachId).elim (.error .noBeach) .ok
  let start ←
    if slot.hour ≤ 23 then
      (Instant.ofLocal? slot.date slot.hour 0 0 0 offset).elim (.error .invalidTime) .ok
    else .error .invalidTime
  if start.atMost now then .error .past
  else .ok ⟨beachId, target.beachName, meaningful target.eventId, slot, start, now⟩

/-- What the server is asked for. -/
def wish (b : Booking) : Api.Wish := ⟨writeMillis b.start, b.eventId⟩

/-- The visit that the server has reserved. A reservation that names no beach is for the one that was
asked for. -/
def visit (b : Booking) (r : Reservation) : Visit where
  id := r.id
  reservationId := some r.id
  beachId := some (if r.beachId.isEmpty then b.beachId else r.beachId)
  beachName := b.beachName
  date := b.slot.date
  hour := b.slot.hour
  status := b.slot.status
  createdAt := b.now

end Booking

/-! ## Success -/

/-- What to tell the user about a visit that was reserved. -/
structure BookingNotice where
  visit : Visit

namespace BookingNotice

/-- The headline. -/
def title : String := "예약이 완료되었어요."

/-- Beach, date and hour. -/
def description (n : BookingNotice) : String :=
  n.visit.beachName ++ " - " ++ n.visit.date.korean ++ " " ++ Calendar.hourText n.visit.hour

end BookingNotice

end Shoreline
