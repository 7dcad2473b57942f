import Shoreline.Proofs.Calendar.Moves
import Shoreline.Proofs.Client.Failing
import Shoreline.Proofs.Client.Visits

/-!
# `Shoreline.Proofs.Client.Booking` — a booking from its guards to its end

A booking passes five guards before it asks the server to reserve. `Obstacle` says which of them stops
it: the first that fails. `Clear` says that none does. Either holds, and then the booking is told apart
in all it does: nothing is sent where there is an obstacle, and just one request where there is none; a
visit is added to the list exactly if the server grants it; and the prompt to log in is raised exactly if
the answer says that a log-in is needed.

## Contents
- `Booking.meaningful_eq_some_iff`, `Booking.meaningful_eq_none_iff`.
- `startSecond`; `Client.Obstacle`, `Client.Clear`, `Client.obstacle_or_clear`.
- `begin_book_of_obstacle`, `begin_book_of_clear`: the beginning.
- `reserveRequest`; `AsksFor` with `asksFor_of_send?`: what the server is asked for.
- `reservedVisit`; `conduct_book_unsent`, `conduct_book_of_clear`: the run from there.
- `Client.NeedsLogIn`; `needsLogIn_iff_lacksLogin`, `prompts_of_granted`: the prompt.
- `Client.booking_runs_through`, with a visit that is granted.
-/

namespace Shoreline

open Text Time Http

/-! ## Guards -/

namespace Booking

theorem meaningful_eq_some_iff {o : Option String} {id : String} :
    meaningful o = some id ↔ (∃ s, o = some s ∧ trim s = id) ∧ id ≠ "" := by
  unfold meaningful
  rw [Option.filter_eq_some_iff, Option.map_eq_some_iff]
  simp

theorem meaningful_eq_none_iff {o : Option String} :
    meaningful o = none ↔ ∀ s, o = some s → trim s = "" := by
  cases o with
  | none => simp [meaningful]
  | some s => simp [meaningful]

end Booking

/-- The second at which clocks at an offset show an hour of a date. -/
def startSecond (date : Date) (hour : Nat) (offset : Offset) : Int :=
  date.number * daySeconds + (hour * 3600 : Nat) - offset.seconds

/-- The second is one of an instant that can be represented. -/
def IsSecond (s : Int) : Prop := Instant.minSeconds ≤ s ∧ s ≤ Instant.maxSeconds

instance (s : Int) : Decidable (IsSecond s) :=
  inferInstanceAs (Decidable (Instant.minSeconds ≤ s ∧ s ≤ Instant.maxSeconds))

namespace Client

variable {c : Client} {view : Calendar.View} {offset : Offset} {target : BookingTarget}
  {now : Instant}

/-- The first guard that a booking does not pass. -/
inductive Obstacle (c : Client) (view : Calendar.View) (offset : Offset) (target : BookingTarget)
    (now : Instant) : BookingFault → Prop
  | loginRequired (h : c.session = none) : Obstacle c view offset target now .loginRequired
  | noDate (hs : c.session ≠ none) (h : view.selectedDate = none) :
      Obstacle c view offset target now .noDate
  | noBeach (hs : c.session ≠ none) (hd : view.selectedDate ≠ none)
      (h : ∀ s, target.beachId = some s → trim s = "") : Obstacle c view offset target now .noBeach
  | invalidTime {date : Date} {s : String} (hs : c.session ≠ none)
      (hd : view.selectedDate = some date) (hb : target.beachId = some s) (hne : trim s ≠ "")
      (h : ¬ IsSecond (startSecond date view.hour offset)) :
      Obstacle c view offset target now .invalidTime
  | past {date : Date} {s : String} (hs : c.session ≠ none) (hd : view.selectedDate = some date)
      (hb : target.beachId = some s) (hne : trim s ≠ "")
      (hr : IsSecond (startSecond date view.hour offset))
      (h : startSecond date view.hour offset ≤ now.seconds) : Obstacle c view offset target now .past

/-- A booking passes every guard: a user is logged in, a date is selected, there is a beach, and the visit
begins at an instant later than now. -/
structure Clear (c : Client) (view : Calendar.View) (offset : Offset) (target : BookingTarget)
    (now : Instant) (token beachId : String) (date : Date) : Prop where
  loggedIn : c.token = some token
  selected : view.selectedDate = some date
  beach : ∃ s, target.beachId = some s ∧ trim s = beachId
  named : beachId ≠ ""
  isSecond : IsSecond (startSecond date view.hour offset)
  future : now.seconds < startSecond date view.hour offset

/-- **A booking meets an obstacle or none.** -/
theorem obstacle_or_clear (c : Client) (view : Calendar.View) (offset : Offset)
    (target : BookingTarget) (now : Instant) :
    (∃ fault, Obstacle c view offset target now fault) ∨
    ∃ token beachId date, Clear c view offset target now token beachId date := by
  cases hs : c.session with
  | none => exact .inl ⟨_, .loginRequired hs⟩
  | some session =>
    have hsession : c.session ≠ none := by simp [hs]
    have htoken : c.token = some session.accessToken := by simp [token, hs]
    cases hd : view.selectedDate with
    | none => exact .inl ⟨_, .noDate hsession hd⟩
    | some date =>
      by_cases hblank : ∀ s, target.beachId = some s → trim s = ""
      · exact .inl ⟨_, .noBeach hsession (by simp [hd]) hblank⟩
      · obtain ⟨s, hb, hne⟩ : ∃ s, target.beachId = some s ∧ trim s ≠ "" := by
          simpa using hblank
        by_cases hr : IsSecond (startSecond date view.hour offset)
        · by_cases hpast : startSecond date view.hour offset ≤ now.seconds
          · exact .inl ⟨_, .past hsession hd hb hne hr hpast⟩
          · exact .inr ⟨_, _, date, htoken, hd, ⟨s, hb, rfl⟩, hne, hr, Int.not_le.mp hpast⟩
        · exact .inl ⟨_, .invalidTime hsession hd hb hne hr⟩

end Client

/-! ## What the guards let pass -/

namespace Booking

variable {view : Calendar.View} {offset : Offset} {target : BookingTarget} {now : Instant}
  {date : Date} {beachId : String}

/-- The booking of the hour of a calendar on a date, at a beach. -/
def ofSlot (view : Calendar.View) (offset : Offset) (target : BookingTarget) (now : Instant)
    (beachId : String) (date : Date) : Booking where
  beachId := beachId
  beachName := target.beachName
  eventId := meaningful target.eventId
  slot := view.slot date
  start := ⟨startSecond date view.hour offset, 0⟩
  now := now

/-- A whole hour of a date is an instant if its second is one. -/
theorem ofLocal?_hour (date : Date) (hour : Nat) (offset : Offset) :
    Instant.ofLocal? date hour 0 0 0 offset =
      if IsSecond (startSecond date hour offset) then some ⟨startSecond date hour offset, 0⟩ else none := by
  have hseconds : date.number * daySeconds + (hour * 3600 + 0 * 60 + 0 : Nat) - offset.seconds =
      startSecond date hour offset := by
    unfold startSecond
    simp
  unfold Instant.ofLocal?
  rw [hseconds]
  rfl

/-- Whole seconds are ordered as instants are. -/
theorem atMost_iff (s : Int) (now : Instant) :
    (⟨s, 0⟩ : Instant).atMost now = true ↔ s ≤ now.seconds := by
  unfold Instant.atMost
  simp
  omega

/-- The guards behind the first two, once a date is selected and there is a beach. -/
theorem prepare_eq (hour : view.hour ≤ 23) (hd : view.selectedDate = some date)
    (hb : meaningful target.beachId = some beachId) :
    prepare view offset target now =
      if IsSecond (startSecond date view.hour offset) then
        if startSecond date view.hour offset ≤ now.seconds then .error .past
        else .ok (ofSlot view offset target now beachId date)
      else .error .invalidTime := by
  have hselected : view.selected = some (view.slot date) := by
    unfold Calendar.View.selected
    rw [hd, Option.map_some]
  have hslot : (view.slot date).hour ≤ 23 := hour
  have hlocal := ofLocal?_hour (view.slot date).date (view.slot date).hour offset
  unfold prepare
  rw [hselected, hb]
  simp only [Option.elim_some, bind, Except.bind, if_pos hslot, hlocal]
  by_cases hr : IsSecond (startSecond date view.hour offset)
  · have hstart : IsSecond (startSecond (view.slot date).date (view.slot date).hour offset) := hr
    rw [if_pos hr, if_pos hstart]
    simp only [Option.elim_some, atMost_iff]
    rfl
  · have hstart : ¬ IsSecond (startSecond (view.slot date).date (view.slot date).hour offset) := hr
    rw [if_neg hr, if_neg hstart]
    rfl

end Booking

namespace Client

variable {c : Client} {view : Calendar.View} {offset : Offset} {target : BookingTarget}
  {now : Instant}

/-! ## The beginning -/

/-- A user who is logged in is told the fault of the guards. -/
theorem begin_book_of_fault {fault : BookingFault} (hs : c.session ≠ none)
    (h : Booking.prepare view offset target now = .error fault) :
    c.begin (.book view offset target now) = (c, .done (.booked (.error fault))) := by
  show c.beginBooking view offset target now = _
  unfold beginBooking
  cases htoken : c.token with
  | none => exact absurd (token_eq_none htoken) hs
  | some token =>
    rw [h]
    rfl

/-- **Where there is an obstacle, the booking ends at once with its fault.** -/
theorem begin_book_of_obstacle (hour : view.hour ≤ 23) {fault : BookingFault}
    (h : Obstacle c view offset target now fault) :
    ∃ d, c.begin (.book view offset target now) = (d, .done (.booked (.error fault))) := by
  have hbeach : ∀ {s}, target.beachId = some s → trim s ≠ "" →
      Booking.meaningful target.beachId = some (trim s) :=
    fun hb hne => Booking.meaningful_eq_some_iff.mpr ⟨⟨_, hb, rfl⟩, hne⟩
  cases h with
  | loginRequired h => exact ⟨_, begin_book_of_loggedOut h view offset target now⟩
  | noDate hs h =>
    have hselected : view.selected = none := by
      unfold Calendar.View.selected
      rw [h, Option.map_none]
    refine ⟨c, begin_book_of_fault hs ?_⟩
    unfold Booking.prepare
    rw [hselected]
    rfl
  | noBeach hs hd h =>
    obtain ⟨date, hdate⟩ := Option.ne_none_iff_exists'.mp hd
    have hselected : view.selected = some (view.slot date) := by
      unfold Calendar.View.selected
      rw [hdate, Option.map_some]
    refine ⟨c, begin_book_of_fault hs ?_⟩
    unfold Booking.prepare
    rw [hselected, Booking.meaningful_eq_none_iff.mpr h]
    rfl
  | invalidTime hs hd hb hne h =>
    refine ⟨c, begin_book_of_fault hs ?_⟩
    rw [Booking.prepare_eq hour hd (hbeach hb hne), if_neg h]
  | past hs hd hb hne hr h =>
    refine ⟨c, begin_book_of_fault hs ?_⟩
    rw [Booking.prepare_eq hour hd (hbeach hb hne), if_pos hr, if_pos h]

/-- What the server is asked for when nothing stands in the way: the time in UTC, and the event unless its id
is blank. -/
def reserveBody (view : Calendar.View) (offset : Offset) (target : BookingTarget) (date : Date) :
    Json.Value :=
  .obj (("reservedAtUtc", .str (writeMillis ⟨startSecond date view.hour offset, 0⟩)) ::
    match Booking.meaningful target.eventId with
    | some id => [("eventId", .str id)]
    | none => [])

/-- The request that asks for it. -/
def reserveRequest (c : Client) (view : Calendar.View) (offset : Offset) (target : BookingTarget)
    (token beachId : String) (date : Date) : Request where
  method := .post
  address := c.base ++ "/api/beaches/" ++ Url.segment beachId ++ "/reservations"
  token := some token
  body := some (reserveBody view offset target date)

/-- **Where there is none, the booking asks the server to reserve.** -/
theorem begin_book_of_clear (hour : view.hour ≤ 23) {token beachId : String} {date : Date}
    (h : Clear c view offset target now token beachId date) :
    c.begin (.book view offset target now) =
      c.issue (c.reserveRequest view offset target token beachId date)
        (.book (.ofSlot view offset target now beachId date)) := by
  have hbeach : Booking.meaningful target.beachId = some beachId :=
    Booking.meaningful_eq_some_iff.mpr ⟨h.beach, h.named⟩
  have hprepared : Booking.prepare view offset target now =
      .ok (.ofSlot view offset target now beachId date) := by
    rw [Booking.prepare_eq hour h.selected hbeach, if_pos h.isSecond,
      if_neg (Int.not_le.mpr h.future)]
  show c.beginBooking view offset target now = _
  unfold beginBooking
  rw [h.loggedIn, hprepared]
  rfl

/-- What is sent asks to reserve at the beach, in the name of the user, for the hour of the date, and for the
event if its id is not blank. -/
structure AsksFor (c : Client) (view : Calendar.View) (offset : Offset) (target : BookingTarget)
    (token beachId : String) (date : Date) (sent : Sent) : Prop where
  method : sent.method = .post
  address : ∃ a, Url.Address.parse?
      (c.base ++ "/api/beaches/" ++ Url.segment beachId ++ "/reservations") = some a ∧
    sent.address = a.withoutCredentials
  token : ∀ other, Request.bearer other ∈ sent.authorizations ↔ other = token
  event : ∀ s, target.eventId = some s → trim s ≠ "" → sent.body = some (.obj
    [("reservedAtUtc", .str (writeMillis ⟨startSecond date view.hour offset, 0⟩)),
      ("eventId", .str (trim s))])
  noEvent : (∀ s, target.eventId = some s → trim s = "") → sent.body = some (.obj
    [("reservedAtUtc", .str (writeMillis ⟨startSecond date view.hour offset, 0⟩))])

/-- **What is sent is what was to be asked for.** -/
theorem asksFor_of_send? {token beachId : String} {date : Date} {sent : Sent}
    (h : (c.reserveRequest view offset target token beachId date).send? = .ok sent) :
    AsksFor c view offset target token beachId date sent := by
  obtain ⟨a, ⟨parsed, -⟩, rfl⟩ := Request.send?_eq_ok h
  exact {
    method := rfl
    address := ⟨a, parsed, rfl⟩
    token := fun other => by
      rw [Request.bearer_mem_authorizations_iff]
      exact ⟨fun h => (Option.some.inj h).symm, fun h => congrArg some h.symm⟩
    event := fun s hs hne => by
      have hevent : Booking.meaningful target.eventId = some (trim s) :=
        Booking.meaningful_eq_some_iff.mpr ⟨⟨s, hs, rfl⟩, hne⟩
      show some (reserveBody view offset target date) = _
      unfold reserveBody
      rw [hevent]
    noEvent := fun hblank => by
      show some (reserveBody view offset target date) = _
      unfold reserveBody
      rw [Booking.meaningful_eq_none_iff.mpr hblank] }

/-! ## The run -/

/-- The visit that the server has reserved: a reservation that names no beach is for the one that was
asked for. -/
def reservedVisit (view : Calendar.View) (target : BookingTarget) (now : Instant) (beachId : String)
    (date : Date) (r : Reservation) : Visit where
  id := r.id
  reservationId := some r.id
  beachId := some (if r.beachId = "" then beachId else r.beachId)
  beachName := target.beachName
  date := date
  hour := view.hour
  status := Calendar.onDate date view.hour
  createdAt := now

theorem visit_ofSlot (view : Calendar.View) (offset : Offset) (target : BookingTarget) (now : Instant)
    (beachId : String) (date : Date) (r : Reservation) :
    (Booking.ofSlot view offset target now beachId date).visit r =
      reservedVisit view target now beachId date r := by
  unfold Booking.visit Booking.ofSlot reservedVisit
  simp only [String.isEmpty_iff]
  rfl

/-- The booking of an hour of a day is timely. -/
theorem timely_ofSlot (offset : Offset) (target : BookingTarget) (hour : view.hour ≤ 23)
    (hnow : now.Valid) (beachId : String) (date : Date) :
    Timely (.ofSlot view offset target now beachId date) where
  hour := hour
  now := hnow

/-- A request that cannot be sent is a failed booking, and nothing else. -/
theorem conduct_book_unsent (hour : view.hour ≤ 23) {token beachId : String} {date : Date}
    (h : Clear c view offset target now token beachId date) {fault : TransportFault}
    (hunsent : (c.reserveRequest view offset target token beachId date).send? = .error fault)
    (w : World) : c.conduct w (.book view offset target now) =
      ((c, .booked (.error (.failed (.transport fault.message)))), []) :=
  conduct_unsent (begin_book_of_clear hour h) hunsent w

/-- A request that is sent gets one reply: the visit is added to the list if a reservation was made, and
otherwise the fault tells why not. -/
theorem conduct_book_of_clear (sound : c.store.fault = none) (hour : view.hour ≤ 23)
    (hnow : now.Valid) {token beachId : String} {date : Date}
    (h : Clear c view offset target now token beachId date) {sent : Sent}
    (hsent : (c.reserveRequest view offset target token beachId date).send? = .ok sent)
    (w : World) :
    (c.conduct w (.book view offset target now)).2 = [(sent, w.reply [] sent)] ∧
      (∀ e, (w.reply [] sent).decoded Reservation.decoder = .error e →
        (c.conduct w (.book view offset target now)).1.2 = .booked (.error (.ofFailure e))) ∧
      ∀ reservation, (w.reply [] sent).Holds Reservation.decoder reservation →
        (c.conduct w (.book view offset target now)).1.2 =
          .booked (.ok ⟨reservedVisit view target now beachId date reservation⟩) ∧
        (c.conduct w (.book view offset target now)).1.1.store.loadVisits =
          c.store.loadVisits ++ [reservedVisit view target now beachId date reservation] ∧
        (c.conduct w (.book view offset target now)).1.1.prompts = c.prompts := by
  have hbegin : c.begin (.book view offset target now) =
      (c, .ask sent (.book (.ofSlot view offset target now beachId date))) :=
    (begin_book_of_clear hour h).trans (c.issue_of_sent _ hsent)
  rcases c.resume_book (.ofSlot view offset target now beachId date) (w.reply [] sent)
    (w.clock [(sent, w.reply [] sent)]) with ⟨reservation, hread, hbooked⟩ | ⟨e, hread, hfailed⟩
  · rw [conduct_answered hbegin w hbooked, hread]
    refine ⟨rfl, nofun, ?_⟩
    intro reservation' hholds
    obtain rfl := Except.ok.inj (hread.symm.trans (Reply.decoded_eq_ok_iff.mpr hholds))
    rw [← visit_ofSlot view offset]
    have hlist := Store.loadVisits_addVisit sound
      ((timely_ofSlot offset target hour hnow beachId date).storable reservation)
    exact ⟨rfl, hlist, rfl⟩
  · rw [conduct_answered hbegin w hfailed, hread]
    refine ⟨rfl, ?_, fun _ hholds => ?_⟩
    · rintro e' ⟨⟩
      rfl
    · rw [Reply.decoded_eq_ok_iff.mpr hholds] at hread
      cases hread

/-! ## The prompt -/

/-- The answer to a booking says that a log-in is needed. -/
def NeedsLogIn (a : Answer) : Prop :=
  a = .booked (.error .loginRequired) ∨ a = .booked (.error .sessionExpired)

theorem needsLogIn_booked_iff (fault : BookingFault) :
    NeedsLogIn (.booked (.error fault)) ↔ fault = .loginRequired ∨ fault = .sessionExpired := by
  simp [NeedsLogIn]

/-- An obstacle says that a log-in is needed exactly if there is no session. -/
theorem Obstacle.needsLogIn_iff {fault : BookingFault} (h : Obstacle c view offset target now fault) :
    NeedsLogIn (.booked (.error fault)) ↔ c.session = none := by
  rw [needsLogIn_booked_iff]
  cases h <;> simp_all

/-- So does a failed request exactly if the token was rejected. -/
theorem needsLogIn_ofFailure_iff (e : Failure) :
    NeedsLogIn (.booked (.error (.ofFailure e))) ↔ e.isUnauthorized = true := by
  have hsent : BookingFault.ofFailure e ≠ .loginRequired := by
    cases e with
    | refused r =>
      show (if r.isUnauthorized then BookingFault.sessionExpired else
        .rejected r.code (BookingFault.refusalMessage r)) ≠ .loginRequired
      split <;> exact nofun
    | _ => exact nofun
  rw [needsLogIn_booked_iff, BookingFault.ofFailure_eq_sessionExpired_iff]
  exact or_iff_right hsent

/-- **The answer says that a log-in is needed exactly if one is lacking.** -/
theorem needsLogIn_iff_lacksLogin (sound : c.store.fault = none) (hour : view.hour ≤ 23)
    (hnow : now.Valid) (w : World) :
    NeedsLogIn (c.conduct w (.book view offset target now)).1.2 ↔
      c.LacksLogin (c.conduct w (.book view offset target now)).2 := by
  rcases c.obstacle_or_clear view offset target now with
    ⟨fault, hobstacle⟩ | ⟨token, beachId, date, hclear⟩
  · obtain ⟨d, hbegin⟩ := begin_book_of_obstacle hour hobstacle
    rw [conduct_done hbegin, hobstacle.needsLogIn_iff]
    simp [LacksLogin]
  · obtain ⟨session, hsession⟩ := token_eq_some hclear.loggedIn
    cases hsent : (c.reserveRequest view offset target token beachId date).send? with
    | error fault =>
      rw [conduct_book_unsent hour hclear hsent]
      simp [needsLogIn_booked_iff, LacksLogin, hsession]
    | ok sent =>
      obtain ⟨hlog, hrefused, hgranted⟩ := conduct_book_of_clear sound hour hnow hclear hsent w
      have hlacks : c.LacksLogin [(sent, w.reply [] sent)] ↔ (w.reply [] sent).Unauthorized := by
        simp [LacksLogin, hsession]
      rw [hlog, hlacks]
      cases hread : (w.reply [] sent).decoded Reservation.decoder with
      | error e =>
        rw [hrefused e hread, needsLogIn_ofFailure_iff]
        exact Reply.isUnauthorized_of_decoded hread
      | ok reservation =>
        rw [(hgranted reservation (Reply.decoded_eq_ok_iff.mp hread)).1]
        simp [NeedsLogIn, Reply.not_unauthorized_of_decoded hread]

/-- A booking that was granted raises no prompt. -/
theorem prompts_of_granted (sound : c.store.fault = none) (hour : view.hour ≤ 23) (hnow : now.Valid)
    {w : World} (granted : (c.conduct w (.book view offset target now)).1.2.isFailure = false) :
    (c.conduct w (.book view offset target now)).1.1.prompts = c.prompts := by
  rcases c.obstacle_or_clear view offset target now with
    ⟨fault, hobstacle⟩ | ⟨token, beachId, date, hclear⟩
  · obtain ⟨d, hbegin⟩ := begin_book_of_obstacle hour hobstacle
    rw [conduct_done hbegin] at granted
    cases granted
  · cases hsent : (c.reserveRequest view offset target token beachId date).send? with
    | error fault => rw [conduct_book_unsent hour hclear hsent]
    | ok sent =>
      obtain ⟨_, hrefused, hgranted⟩ := conduct_book_of_clear sound hour hnow hclear hsent w
      cases hread : (w.reply [] sent).decoded Reservation.decoder with
      | error e =>
        rw [hrefused e hread] at granted
        cases granted
      | ok reservation => exact (hgranted reservation (Reply.decoded_eq_ok_iff.mp hread)).2.2

/-- **A booking from its guards to its end.** It runs alone, on a store whose writes succeed, for a
calendar that its user has moved anywhere. The first guard that it does not pass is its fault, and then
nothing is sent. If it passes all of them, the server is asked to reserve, once: a request that cannot be
sent is a failure; one that is sent asks for the hour of the date and for the event; if the server answers
with a status from 200 to 299 and a reservation, the list of visits grows by the visit at its end; and
otherwise the fault tells why not. Every fault leaves what is stored, and the prompt to log in is raised
once, as the last of the prompts, if the answer says that a log-in is needed, and only then. -/
theorem booking_runs_through {c : Client} (sound : c.store.fault = none) {view : Calendar.View}
    {offset : Offset} (reachable : view.Reachable offset) (target : BookingTarget) {now : Instant}
    (hnow : now.Valid) (w : World) {ended : Ended} {log : Log}
    (run : c.conduct w (.book view offset target now) = (ended, log)) :
    ((∃ fault, Obstacle c view offset target now fault) ∨
      ∃ token beachId date, Clear c view offset target now token beachId date) ∧
    (∀ fault, Obstacle c view offset target now fault →
      log = [] ∧ ended.2 = .booked (.error fault)) ∧
    (∀ token beachId date, Clear c view offset target now token beachId date →
      (∀ fault, (c.reserveRequest view offset target token beachId date).send? = .error fault →
        log = [] ∧ ended.2 = .booked (.error (.failed (.transport fault.message)))) ∧
      ∀ sent, (c.reserveRequest view offset target token beachId date).send? = .ok sent →
        log = [(sent, w.reply [] sent)] ∧ AsksFor c view offset target token beachId date sent ∧
          (∀ e, (w.reply [] sent).decoded Reservation.decoder = .error e →
            ended.2 = .booked (.error (.ofFailure e))) ∧
          ∀ reservation, (w.reply [] sent).Holds Reservation.decoder reservation →
            ended.2 = .booked (.ok ⟨reservedVisit view target now beachId date reservation⟩) ∧
            ended.1.store.loadVisits =
              c.store.loadVisits ++ [reservedVisit view target now beachId date reservation]) ∧
    (∀ fault, ended.2 = .booked (.error fault) →
      ended.1.store = c.store ∧ ended.1.store.loadVisits = c.store.loadVisits) ∧
    (NeedsLogIn ended.2 → ended.1 = { c with prompts := c.prompts ++ [BookingFault.loginPrompt] }) ∧
    (¬ NeedsLogIn ended.2 → ended.1.prompts = c.prompts) := by
  have hour := reachable.hour_le
  obtain rfl : (c.conduct w (.book view offset target now)).1 = ended := by rw [run]
  obtain rfl : (c.conduct w (.book view offset target now)).2 = log := by rw [run]
  refine ⟨c.obstacle_or_clear view offset target now, ?_, ?_, ?_, ?_, ?_⟩
  · intro fault h
    obtain ⟨d, hbegin⟩ := begin_book_of_obstacle hour h
    rw [conduct_done hbegin]
    exact ⟨rfl, rfl⟩
  · intro token beachId date h
    refine ⟨fun fault hunsent => ?_, fun sent hsent => ?_⟩
    · rw [conduct_book_unsent hour h hunsent]
      exact ⟨rfl, rfl⟩
    · obtain ⟨hlog, hrefused, hgranted⟩ := conduct_book_of_clear sound hour hnow h hsent w
      refine ⟨hlog, asksFor_of_send? hsent, hrefused, fun reservation hholds => ?_⟩
      obtain ⟨hanswer, hlist, _⟩ := hgranted reservation hholds
      exact ⟨hanswer, hlist⟩
  · intro fault hanswer
    have failed : (c.conduct w (.book view offset target now)).1.2.isFailure = true := by
      rw [hanswer]
      rfl
    have hstore := (spared_conduct sound failed).store
    exact ⟨hstore, congrArg Store.loadVisits hstore⟩
  · intro hneeds
    have failed : (c.conduct w (.book view offset target now)).1.2.isFailure = true := by
      rcases hneeds with h | h <;> rw [h] <;> rfl
    exact (spared_conduct sound failed).prompted _ rfl
      ((needsLogIn_iff_lacksLogin sound hour hnow w).mp hneeds)
  · intro hneeds
    cases failed : (c.conduct w (.book view offset target now)).1.2.isFailure with
    | false => exact prompts_of_granted sound hour hnow failed
    | true =>
      have hlacks := mt (needsLogIn_iff_lacksLogin sound hour hnow w).mpr hneeds
      rw [(spared_conduct sound failed).unchanged (.inr hlacks)]

/-- A server that grants every booking. -/
def granting : World := ⟨fun _ _ => Traffic.reserved "a", fun _ => 1⟩

/-- The beach of the samples. -/
def sampleTarget : BookingTarget := ⟨some "1", "Haeundae", none⟩

/-- The day of the samples. -/
def sampleDate : Date := (Traffic.sampleVisit "1" "a").date

/-- A user goes to midday of that day and books it at the beginning of 1970. -/
theorem booking_runs_through_granted :
    Traffic.ofUser.client.store.fault = none ∧
    Traffic.sampleView.Reachable Offset.korea ∧ Instant.Valid ⟨0, 0⟩ ∧
    (Traffic.ofUser.client.conduct granting
      (.book Traffic.sampleView Offset.korea sampleTarget ⟨0, 0⟩)).1.1.store.loadVisits =
        [Traffic.sampleVisit "1" "a"] := by
  have sound : Traffic.ofUser.client.store.fault = none := rfl
  have reachable : Traffic.sampleView.Reachable Offset.korea :=
    ⟨⟨0, 0⟩, [.showMonth 2024 8, .selectHour 12, .selectDate 15], by decide +kernel⟩
  have hnow : Instant.Valid ⟨0, 0⟩ := ⟨by decide, by decide, by decide⟩
  have hclear : Clear Traffic.ofUser.client Traffic.sampleView Offset.korea sampleTarget ⟨0, 0⟩
      "a" "1" sampleDate :=
    ⟨rfl, rfl, ⟨"1", rfl, by decide⟩, by decide, by decide +kernel, by decide +kernel⟩
  have hsendable : (Traffic.ofUser.client.reserveRequest Traffic.sampleView Offset.korea sampleTarget
      "a" "1" sampleDate).send?.isOk = true := by
    decide +kernel
  have hread : ((Traffic.reserved "a").decoded Reservation.decoder).toOption =
      some ⟨"a", "", "", "", none, ""⟩ := by
    decide +kernel
  have hkept : Traffic.ofUser.client.store.loadVisits = [] := by decide +kernel
  have hvisit : reservedVisit Traffic.sampleView sampleTarget ⟨0, 0⟩ "1" sampleDate
      ⟨"a", "", "", "", none, ""⟩ = Traffic.sampleVisit "1" "a" := by
    decide +kernel
  obtain ⟨_, _, hasked, _⟩ := booking_runs_through sound reachable sampleTarget hnow granting rfl
  obtain ⟨_, hsent⟩ := hasked _ _ _ hclear
  cases hs : (Traffic.ofUser.client.reserveRequest Traffic.sampleView Offset.korea sampleTarget
      "a" "1" sampleDate).send? with
  | error fault =>
    rw [hs] at hsendable
    cases hsendable
  | ok sent =>
    obtain ⟨_, _, _, hadded⟩ := hsent sent hs
    cases hdecoded : (Traffic.reserved "a").decoded Reservation.decoder with
    | error e =>
      rw [hdecoded] at hread
      cases hread
    | ok reservation =>
      rw [hdecoded] at hread
      obtain rfl := Option.some.inj hread
      obtain ⟨_, hlist⟩ := hadded _ (Reply.decoded_eq_ok_iff.mp hdecoded)
      rw [hkept, hvisit] at hlist
      exact ⟨sound, reachable, hnow, hlist⟩

end Client

end Shoreline
