import Shoreline.Proofs.Client.Booking
import Shoreline.Proofs.Time.Strict

/-!
# `Shoreline.Proofs.Client.ReservedTime` — the time that the server is asked to reserve

A booking turns the selected date and hour into an instant, by subtracting the offset of local time, and
writes that instant in UTC. Either step may carry over the end of a day, a month or a year. Here the text is
read back by the strict reader, and the clocks at the offset are asked what they show then: the selected date
and the full hour.

## Contents
- `Client.reserve_of_ask`: what a booking asks for.
- `Client.reserved_time_is_selected`, with a visit at the turn of a year.
-/

namespace Shoreline

open Text Time Http Json

namespace Client

variable {c d : Client} {view : Calendar.View} {offset : Offset} {target : BookingTarget} {now : Instant}
  {sent : Sent} {p : Pending}

/-- A booking that asks was let pass by the guards, and asks for what it wishes. -/
theorem reserve_of_ask (h : c.begin (.book view offset target now) = (d, .ask sent p)) :
    ∃ b, Booking.prepare view offset target now = .ok b ∧ sent.body = some b.wish.toValue := by
  rcases c.begin_book_cases view offset target now with
    ⟨b, token, sent', hprepared, -, hsent, hasked⟩ | ⟨fault, hfailed⟩
  · obtain ⟨-, hstep⟩ := Prod.mk.inj (hasked.symm.trans h)
    obtain ⟨rfl, -⟩ := Step.ask.inj hstep
    obtain ⟨a, -, rfl⟩ := Request.send?_eq_ok hsent
    exact ⟨b, hprepared, rfl⟩
  · rw [h] at hfailed
    cases hfailed

/-- **The server is asked for the selected date and hour.** Whatever is selected at whatever offset: if a
booking sends a request, the request has just one time, that time is written in UTC with milliseconds, and
the clocks at the offset show the selected date and the full hour when it is that time. -/
theorem reserved_time_is_selected (h : c.begin (.book view offset target now) = (d, .ask sent p)) :
    ∃ date text others t, view.selectedDate = some date ∧ view.hour ≤ 23 ∧
      sent.body = some (.obj (("reservedAtUtc", .str text) :: others)) ∧
      (∀ m ∈ others, m.1 ≠ "reservedAtUtc") ∧
      Instant.strict? text = some t ∧
      t.localParts offset = ⟨⟨date.year, date.month, date.day⟩, view.hour, 0, 0, 0⟩ := by
  obtain ⟨b, hprepared, hbody⟩ := reserve_of_ask h
  obtain ⟨hselected, hhour, hlocal, -⟩ := slot_of_prepare hprepared
  obtain ⟨date, hdate, hslot⟩ := Option.map_eq_some_iff.mp hselected
  rw [← hslot] at hhour hlocal
  have hclocks := Instant.localParts_ofLocal? hlocal hhour (Nat.zero_le _) (Nat.zero_le _)
  obtain ⟨-, hnanos, -⟩ := Instant.of_ofLocal? hlocal
  -- a full hour has no part of a second that could be lost
  have hread : Instant.strict? (writeMillis b.start) = some b.start := by
    have hwhole : b.start.nanos / 1000000 * 1000000 = b.start.nanos := by omega
    rw [Instant.strict?_writeMillis (by omega), hwhole]
  refine ⟨date, writeMillis b.start, _, b.start, hdate, hhour, hbody, ?_, hread, hclocks⟩
  intro m hm
  cases hevent : b.eventId with
  | none => simp [Booking.wish, hevent] at hm
  | some id =>
    have hname : m = ("eventId", .str id) := by simpa [Booking.wish, hevent] using hm
    simp [hname]

/-! ## The turn of a year -/

/-- The first hour of a year, selected in a calendar. -/
def newYearView : Calendar.View := ⟨2025, 1, 0, some ⟨2025, 1, 1, by decide, by decide⟩⟩

/-- A user in Korea books the first hour of a year. The server is asked for a time in the last year. -/
theorem reserved_time_is_selected_newYear :
    ∃ sent p others t, Traffic.ofUser.client.begin (.book newYearView Offset.korea sampleTarget ⟨0, 0⟩) =
        (Traffic.ofUser.client, .ask sent p) ∧
      sent.body = some (.obj (("reservedAtUtc", .str "2024-12-31T15:00:00.000Z") :: others)) ∧
      Instant.strict? "2024-12-31T15:00:00.000Z" = some t ∧
      t.localParts Offset.korea = ⟨⟨2025, 1, 1⟩, 0, 0, 0, 0⟩ := by
  have hclear : Clear Traffic.ofUser.client newYearView Offset.korea sampleTarget ⟨0, 0⟩ "a" "1"
      ⟨2025, 1, 1, by decide, by decide⟩ :=
    ⟨rfl, rfl, ⟨"1", rfl, by decide⟩, by decide, by decide +kernel, by decide +kernel⟩
  have hsendable : (Traffic.ofUser.client.reserveRequest newYearView Offset.korea sampleTarget
      "a" "1" ⟨2025, 1, 1, by decide, by decide⟩).send?.isOk = true := by
    decide +kernel
  have htext : writeMillis ⟨startSecond ⟨2025, 1, 1, by decide, by decide⟩ 0 Offset.korea, 0⟩ =
      "2024-12-31T15:00:00.000Z" := by
    decide +kernel
  obtain ⟨sent, hsent⟩ := exists_of_isOk hsendable
  have hasked := begin_book_of_clear (by decide) hclear
  rw [issue, hsent] at hasked
  obtain ⟨date, text, others, t, hdate, -, hbody, -, hread, hclocks⟩ := reserved_time_is_selected hasked
  have hsame : text = "2024-12-31T15:00:00.000Z" := by
    obtain ⟨a, -, rfl⟩ := Request.send?_eq_ok hsent
    obtain ⟨hfirst, -⟩ := List.cons.inj (Value.obj.inj (Option.some.inj hbody))
    rw [← htext]
    exact (Value.str.inj (Prod.mk.inj hfirst).2).symm
  subst hsame
  obtain rfl := Option.some.inj hdate
  exact ⟨sent, _, others, t, hasked, hbody, hread, hclocks⟩

end Client

end Shoreline
