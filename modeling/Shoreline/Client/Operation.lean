import Shoreline.Api
import Shoreline.Calendar.Booking
import Shoreline.Client
import Shoreline.Verification

/-!
# `Shoreline.Client.Operation` — what the client does with the server

An operation runs until it has an answer or waits for a reply of the server. While it waits, others
may run; everything between two requests happens at once. So an operation that waits is a value, a
`Pending`, which holds what it needs to go on, and `resume` takes it up again with the reply and with
the client as it is by then.

A request that cannot be sent fails at once. A reply is read for what the operation expects
(`Pending.read`); what comes of a failure and what comes of success are two functions, `fail` and
`succeed`. Only a log-in asks a second time, for the favorites of the user.

## Contents
- `Operation`, `Answer`, `Pending`, `Step`.
- `Client.begin`, `Client.resume`.
- `rounds_of_resume`: how many replies an operation can still wait for goes down; `Client.perform` runs
  an operation to its end.
-/

namespace Shoreline

open Text Json Time Http

/-! ## Operations -/

/-- What the client can be asked to do that may take a request. -/
inductive Operation
  /-- Load the favorites. -/
  | start
  | logIn (email password : String)
  | signUp (name email password : String)
  | signOut
  /-- Get a new access token. -/
  | refreshSession
  | currentUser
  /-- Take note of a location. -/
  | locate (l : Location)
  /-- Fetch the beaches again. -/
  | refetch
  /-- A beach becomes a favorite, or stops being one. -/
  | toggle (id : String)
  /-- Ask whether a beach is a favorite. -/
  | check (id : String)
  /-- Reserve the slot that is selected in a calendar. -/
  | book (view : Calendar.View) (offset : Offset) (target : BookingTarget) (now : Instant)
  /-- The reservations that the server knows. -/
  | reservations
  | cancelVisit (v : Visit)
  /-- Send the verification mail again, at a time in milliseconds. -/
  | resend (email : String) (now : Int)
  | registerDevice (device : String)
  | setNotifications (enabled : Bool)

/-- What an operation answers. -/
inductive Answer
  | favorites (source : FavoriteSource)
  | session (result : Except Failure Session)
  /-- The address to which a verification mail was sent. -/
  | signedUp (result : Except Failure String)
  | signedOut
  | user (result : Except Failure Profile)
  | feed (outcome : Feed.Outcome)
  | toggled (result : Except ToggleFault ToggleNotice)
  | isFavorite (result : Except Failure Bool)
  | booked (result : Except BookingFault BookingNotice)
  | reservations (result : Except Failure (List Reservation))
  | resent (result : Except ResendFault Unit)
  /-- Nothing but success. -/
  | acknowledged (result : Except Failure Unit)

/-- An operation that waits for a reply. -/
inductive Pending
  | startFavorites
  | logIn
  /-- The favorites of a user who has just logged in. -/
  | logInFavorites (session : Session)
  | signUp (email : String)
  | signOut
  | refreshSession (session : Session)
  | currentUser
  | feed (ticket : Ticket)
  | toggle (id : String)
  | check
  | book (b : Booking)
  | reservations
  | cancelVisit (id : String)
  | resend (email : String) (now : Int)
  | registerDevice
  | setNotifications

/-- Where an operation has got to. -/
inductive Step
  | done (answer : Answer)
  /-- Something was sent, and a reply is awaited. -/
  | ask (sent : Sent) (pending : Pending)

/-- The end of an operation: the client after it, and its answer. -/
abbrev Ended := Client × Answer

/-- An operation that has ended has got to its answer. -/
def Ended.step (e : Ended) : Client × Step := (e.1, .done e.2)

/-! ## Replies -/

namespace Pending

/-- What the reply to a waiting operation holds. -/
def Payload : Pending → Type
  | startFavorites => List Beach
  | logIn => LoginGrant
  | logInFavorites _ => List Beach
  | signUp _ => Profile
  | signOut => Unit
  | refreshSession _ => TokenGrant
  | currentUser => Profile
  | feed _ => List Beach
  | toggle _ => Api.FavoriteMark
  | check => Bool
  | book _ => Reservation
  | reservations => List Reservation
  | cancelVisit _ => Unit
  | resend _ _ => Unit
  | registerDevice => Unit
  | setNotifications => Unit

/-- Read a reply for what it should hold. -/
def read : (p : Pending) → Reply → Except Failure p.Payload
  | startFavorites => Api.beaches
  | logIn => Reply.decoded LoginGrant.decoder
  | logInFavorites _ => Api.beaches
  | signUp _ => Reply.decoded Profile.decoder
  | signOut => Reply.acknowledged
  | refreshSession _ => Reply.decoded TokenGrant.decoder
  | currentUser => Reply.decoded Profile.decoder
  | feed _ => Api.beaches
  | toggle _ => Reply.decoded Api.FavoriteMark.decoder
  | check => Reply.decoded Api.favoriteCheck
  | book _ => Reply.decoded Reservation.decoder
  | reservations => Reply.decoded (Decoder.list Reservation.decoder)
  | cancelVisit _ => Reply.acknowledged
  | resend _ _ => Reply.acknowledged
  | registerDevice => Reply.acknowledged
  | setNotifications => Reply.acknowledged

/-- How many replies an operation can still wait for. -/
def rounds : Pending → Nat
  | logIn => 2
  | _ => 1

end Pending

namespace Client

/-- What is said to operations that need a user who is logged in. -/
def notLoggedIn : Failure := .loginRequired "not logged in"

/-- A user has signed out: favorites are those of the device, and all beaches are shown. -/
def afterSignOut (c : Client) : Client := (c.setFavoritesOnly false).loadDeviceFavorites

/-- The result of a fetch arrives. Favorites that a new list marks are added. -/
def takeFeed (c : Client) (ticket : Ticket) (result : Except Failure (List Beach)) : Ended :=
  let delivered := c.feed.deliver ticket result
  let c := { c with feed := delivered.1 }
  match delivered.2 with
  | .loaded count => ((c.mergeFlags c.feed.beaches).1, .feed (.loaded count))
  | outcome => (c, .feed outcome)

/-! ## Failure -/

/-- What comes of a failed request for the favorites: those of the device, and no failure. -/
def failFavorites (c : Client) (answer : Answer) : Ended := (c.loadDeviceFavorites, answer)

/-- What comes of a failed toggle. A token that was rejected raises the prompt to log in. -/
def failToggle (c : Client) (e : Failure) : Ended :=
  if e.isUnauthorized then
    (c.prompt ToggleFault.loginPrompt, .toggled (.error .sessionExpired))
  else (c, .toggled (.error (.failed e)))

/-- What comes of a failed booking. A token that was rejected raises the prompt to log in. -/
def failBooking (c : Client) (e : Failure) : Ended :=
  match BookingFault.ofFailure e with
  | .sessionExpired => (c.prompt BookingFault.loginPrompt, .booked (.error .sessionExpired))
  | fault => (c, .booked (.error fault))

/-- What comes of a failed mail. A server that has sent one recently starts the wait anew. -/
def failResend (c : Client) (email : String) (now : Int) (e : Failure) : Ended :=
  match e with
  | .refused r =>
    if namesRecentSend r then
      ({ c with store := c.store.stampResend email now }, .resent (.error .recentlySent))
    else (c, .resent (.error (.failed e)))
  | _ => (c, .resent (.error (.failed e)))

/-- What comes of a failure of the request that an operation waits for. -/
def fail (c : Client) (p : Pending) (e : Failure) : Ended :=
  match p with
  | .startFavorites => c.failFavorites (.favorites .device)
  | .logIn => (c, .session (.error e))
  | .logInFavorites session => c.failFavorites (.session (.ok session))
  | .signUp _ => (c, .signedUp (.error e))
  | .signOut => (c.afterSignOut, .signedOut)
  | .refreshSession _ => (c, .session (.error e))
  | .currentUser => (c, .user (.error e))
  | .feed ticket => c.takeFeed ticket (.error e)
  | .toggle _ => c.failToggle e
  | .check => (c, .isFavorite (.error e))
  | .book _ => c.failBooking e
  | .reservations => (c, .reservations (.error e))
  | .cancelVisit _ => (c, .acknowledged (.error e))
  | .resend email now => c.failResend email now e
  | .registerDevice => (c, .acknowledged (.error e))
  | .setNotifications => (c, .acknowledged (.error e))

/-- Send a request and wait for the reply. A request that cannot be sent fails at once. -/
def issue (c : Client) (r : Request) (p : Pending) : Client × Step :=
  match r.send? with
  | .ok sent => (c, .ask sent p)
  | .error fault => (c.fail p (.transport fault.message)).step

/-! ## Success -/

/-- The favorites become those that the server lists. -/
def takeFavorites (c : Client) (beaches : List Beach) : Client :=
  { c with favorites := KeySet.ofKeys (beaches.map (·.id)) }

/-- A user has logged in: the session is held and kept, and their favorites are asked for. -/
def loggedIn (c : Client) (grant : LoginGrant) (now : Int) : Client × Step :=
  let session := Session.ofGrant grant now
  let c := (c.keepSession session).1
  c.issue (Api.favorites c.base session.accessToken) (.logInFavorites session)

/-- A session has a new access token. -/
def refreshed (c : Client) (session : Session) (grant : TokenGrant) (now : Int) : Ended :=
  let session := session.renewed grant now
  match c.keepSession session with
  | (c, none) => (c, .session (.ok session))
  | (c, some fault) => (c, .session (.error (.notStored fault)))

/-- A beach was made a favorite, or none. -/
def marked (c : Client) (id : String) (mark : Api.FavoriteMark) : Ended :=
  ({ c with
      favorites := Favorites.put c.favorites id mark.isFavorite
      feed := c.feed.mark id mark.isFavorite },
    .toggled (.ok ⟨id, mark.isFavorite, .server⟩))

/-- A visit was reserved: it is added to the list, if that can be stored. -/
def booked (c : Client) (b : Booking) (r : Reservation) : Ended :=
  let visit := b.visit r
  ({ c with store := c.store.attempt (c.store.addVisit visit) }, .booked (.ok ⟨visit⟩))

/-- A visit is dropped from the list. -/
def dropVisit (c : Client) (id : String) : Ended :=
  match c.store.removeVisit id with
  | .ok (store, _) => ({ c with store := store }, .acknowledged (.ok ()))
  | .error fault => (c, .acknowledged (.error (.notStored fault)))

/-- A mail was sent. -/
def resent (c : Client) (email : String) (now : Int) : Ended :=
  ({ c with store := c.store.stampResend email now }, .resent (.ok ()))

/-- What comes of what the reply holds, at a time in milliseconds. -/
def succeed (c : Client) (now : Int) : (p : Pending) → p.Payload → Client × Step
  | .startFavorites, beaches => Ended.step (c.takeFavorites beaches, .favorites .server)
  | .logIn, grant => c.loggedIn grant now
  | .logInFavorites session, beaches => Ended.step (c.takeFavorites beaches, .session (.ok session))
  | .signUp email, _ => Ended.step (c, .signedUp (.ok email))
  | .signOut, _ => Ended.step (c.afterSignOut, .signedOut)
  | .refreshSession session, grant => (c.refreshed session grant now).step
  | .currentUser, profile => Ended.step (c, .user (.ok profile))
  | .feed ticket, beaches => (c.takeFeed ticket (.ok beaches)).step
  | .toggle id, mark => (c.marked id mark).step
  | .check, isFavorite => Ended.step (c, .isFavorite (.ok isFavorite))
  | .book b, reservation => (c.booked b reservation).step
  | .reservations, reservations => Ended.step (c, .reservations (.ok reservations))
  | .cancelVisit id, _ => (c.dropVisit id).step
  | .resend email now, _ => (c.resent email now).step
  | .registerDevice, _ => Ended.step (c, .acknowledged (.ok ()))
  | .setNotifications, _ => Ended.step (c, .acknowledged (.ok ()))

/-- Take up an operation that waits, with the reply, at a time in milliseconds. -/
def resume (c : Client) (p : Pending) (reply : Reply) (now : Int) : Client × Step :=
  match p.read reply with
  | .ok payload => c.succeed now p payload
  | .error e => (c.fail p e).step

/-! ## The beginning -/

/-- The answer of an operation that has nothing but failure to tell. -/
def refuse (e : Failure) : Answer := .acknowledged (.error e)

/-- Ask with the access token, or fail for want of one. -/
def withToken (c : Client) (answer : Failure → Answer) (r : String → Request)
    (p : Pending) : Client × Step :=
  match c.token with
  | some token => c.issue (r token) p
  | none => Ended.step (c, answer notLoggedIn)

/-- Load the favorites: the server's if a user is logged in, else the device's. -/
def beginStart (c : Client) : Client × Step :=
  match c.token with
  | some token => c.issue (Api.favorites c.base token) .startFavorites
  | none => Ended.step (c.loadDeviceFavorites, .favorites .device)

/-- Check the form and log in. -/
def beginLogIn (c : Client) (email password : String) : Client × Step :=
  match (LoginForm.fill email password).check with
  | .ok form => c.issue (Api.logIn c.base form) .logIn
  | .error fields => Ended.step (c, .session (.error (.invalid fields)))

/-- Check the form and sign up. -/
def beginSignUp (c : Client) (name email password : String) : Client × Step :=
  match (SignUpForm.fill name email password).check with
  | .ok form => c.issue (Api.signUp c.base form) (.signUp form.email)
  | .error fields => Ended.step (c, .signedUp (.error (.invalid fields)))

/-- Forget the session at once, then have its refresh token revoked. -/
def beginSignOut (c : Client) : Client × Step :=
  match c.session with
  | some session => c.dropSession.issue (Api.logOut c.base session.refreshToken) .signOut
  | none => Ended.step (c.dropSession.afterSignOut, .signedOut)

/-- Ask for a new access token. -/
def beginRefresh (c : Client) : Client × Step :=
  match c.session with
  | some session => c.issue (Api.refresh c.base session.refreshToken) (.refreshSession session)
  | none => Ended.step (c, .session (.error (.loginRequired "no session to refresh")))

/-- Go on after a report about the location: fetch, if a fetch was started. -/
def beginFetch (c : Client) (launched : Feed × Option (Ticket × Position)) : Client × Step :=
  let c := { c with feed := launched.1 }
  match launched.2 with
  | some (ticket, here) =>
    c.issue (Api.nearby c.base here c.settings.searchRadius c.token) (.feed ticket)
  | none => Ended.step (c, .feed .skipped)

/-- Change sides: at the server for a user who is logged in, else on the device, if that is allowed. -/
def beginToggle (c : Client) (id : String) : Client × Step :=
  match c.token with
  | some token => c.issue (Api.toggleFavorite c.base token id) (.toggle id)
  | none =>
    if c.settings.guestFavorites then
      let flipped := c.flipFavorite id
      Ended.step (flipped.1, .toggled (.ok ⟨id, flipped.2, .device⟩))
    else Ended.step (c.prompt ToggleFault.loginPrompt, .toggled (.error .loginRequired))

/-- Ask the server for a user who is logged in; else the favorites of the device tell. -/
def beginCheck (c : Client) (id : String) : Client × Step :=
  match c.token with
  | some token => c.issue (Api.checkFavorite c.base token id) .check
  | none => Ended.step (c, .isFavorite (.ok (c.favorites.contains id)))

/-- Reserve the selected slot, if the guards let it pass. -/
def beginBooking (c : Client) (view : Calendar.View) (offset : Offset) (target : BookingTarget)
    (now : Instant) : Client × Step :=
  match c.token with
  | none => Ended.step (c.prompt BookingFault.loginPrompt, .booked (.error .loginRequired))
  | some token =>
    match Booking.prepare view offset target now with
    | .ok b => c.issue (Api.reserve c.base token b.beachId b.wish) (.book b)
    | .error fault => Ended.step (c, .booked (.error fault))

/-- Cancel a reservation at the server if it is known there, then drop the visit. -/
def beginCancelVisit (c : Client) (v : Visit) : Client × Step :=
  match v.reservationId, v.beachId with
  | some reservationId, some beachId =>
    c.withToken refuse (Api.cancelReservation c.base · beachId reservationId) (.cancelVisit v.id)
  | _, _ => (c.dropVisit v.id).step

/-- Have a mail sent, unless one was sent a short while ago. -/
def beginResend (c : Client) (email : String) (now : Int) : Client × Step :=
  let email := trim email
  let seconds := c.store.cooldown email now
  if 0 < seconds then Ended.step (c, .resent (.error (.coolingDown seconds)))
  else c.issue (Api.resendVerification c.base email) (.resend email now)

/-- Have notifications sent to a device. -/
def beginRegister (c : Client) (device : String) : Client × Step :=
  let device := trim device
  if device.isEmpty then
    let fields : FieldMessages := SortedMap.empty.insert "fcmToken" "empty device token"
    Ended.step (c, .acknowledged (.error (.invalid fields)))
  else c.withToken refuse (Api.registerDevice c.base · device) .registerDevice

/-- Begin an operation. -/
def begin (c : Client) : Operation → Client × Step
  | .start => c.beginStart
  | .logIn email password => c.beginLogIn email password
  | .signUp name email password => c.beginSignUp name email password
  | .signOut => c.beginSignOut
  | .refreshSession => c.beginRefresh
  | .currentUser =>
    c.withToken (fun e => .user (.error e)) (Api.currentUser c.base) .currentUser
  | .locate l => c.beginFetch (c.feed.locate l)
  | .refetch => c.beginFetch c.feed.retry
  | .toggle id => c.beginToggle id
  | .check id => c.beginCheck id
  | .book view offset target now => c.beginBooking view offset target now
  | .reservations =>
    c.withToken (fun e => .reservations (.error e)) (Api.reservations c.base) .reservations
  | .cancelVisit v => c.beginCancelVisit v
  | .resend email now => c.beginResend email now
  | .registerDevice device => c.beginRegister device
  | .setNotifications enabled =>
    c.withToken refuse (Api.setNotifications c.base · enabled) .setNotifications

/-! ## Running to the end -/

/-- An operation that has ended asks nothing. -/
theorem Ended.step_ne_ask (e : Ended) (d : Client) (sent : Sent) (q : Pending) :
    e.step ≠ (d, .ask sent q) := by
  intro h
  exact Step.noConfusion (congrArg Prod.snd h)

/-- Waiting goes on after `issue` only for what was asked. -/
theorem ask_of_issue {c d : Client} {r : Request} {p q : Pending} {sent : Sent}
    (h : c.issue r p = (d, .ask sent q)) : q = p := by
  unfold issue at h
  split at h
  · cases h; rfl
  · exact absurd h (Ended.step_ne_ask _ _ _ _)

/-- **An operation waits for fewer replies after each success.** -/
theorem rounds_of_succeed {c d : Client} {p q : Pending} {payload : p.Payload} {now : Int}
    {sent : Sent} (h : c.succeed now p payload = (d, .ask sent q)) : q.rounds < p.rounds := by
  cases p with
  | logIn =>
    have hl : c.loggedIn payload now = (d, .ask sent q) := h
    unfold loggedIn at hl
    rw [ask_of_issue hl]
    exact Nat.lt_succ_self 1
  | _ => exact absurd h (Ended.step_ne_ask _ _ _ _)

/-- **An operation waits for fewer replies after each of them.** -/
theorem rounds_of_resume {c d : Client} {p q : Pending} {reply : Reply} {now : Int} {sent : Sent}
    (h : c.resume p reply now = (d, .ask sent q)) : q.rounds < p.rounds := by
  unfold resume at h
  split at h
  · exact rounds_of_succeed h
  · exact absurd h (Ended.step_ne_ask _ _ _ _)

/-- Run an operation that waits to its end: send, take the reply, go on. -/
def await {m : Type → Type} [Monad m] (exchange : Sent → m Reply) (clock : m Int) (c : Client)
    (sent : Sent) (p : Pending) : m Ended := do
  let reply ← exchange sent
  let now ← clock
  match h : c.resume p reply now with
  | (c, .done answer) => return (c, answer)
  | (c, .ask sent q) =>
    have := rounds_of_resume h
    await exchange clock c sent q
termination_by p.rounds

/-- Run an operation from its beginning to its end while nothing else runs. -/
def perform {m : Type → Type} [Monad m] (exchange : Sent → m Reply) (clock : m Int) (c : Client)
    (op : Operation) : m Ended :=
  match c.begin op with
  | (c, .done answer) => return (c, answer)
  | (c, .ask sent p) => await exchange clock c sent p

end Client

end Shoreline
