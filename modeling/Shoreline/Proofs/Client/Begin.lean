import Shoreline.Client.Operation

/-!
# `Shoreline.Proofs.Client.Begin` — how operations begin

Sixteen operations begin in few ways. Most ask with the client as it is or answer at once and change
nothing; the others are named one by one in `Begins`. Everything that is proved about beginnings is
proved by cases on it, so that no other proof opens the functions of the single operations.

## Contents
- `Client.token_eq_some`; `Client.issue_of_sent`, `Client.issue_of_unsent` and `Client.issue_cases`.
- `Client.Awaits`: what an operation can wait for; `Operation.mayRefuse`.
- `Client.Begins` and `Client.begins`.
-/

namespace Shoreline

open Http

/-- The operations that may answer at once and change nothing. -/
def Operation.mayRefuse : Operation → Bool
  | .start | .signOut | .locate _ | .refetch | .toggle _ => false
  | _ => true

namespace Client

/-! ## Tokens and requests -/

theorem token_eq_some {c : Client} {token : String} (h : c.token = some token) :
    ∃ s, c.session = some s := by
  unfold Client.token at h
  obtain ⟨s, hs, _⟩ := Option.map_eq_some_iff.mp h
  exact ⟨s, hs⟩

theorem token_eq_none {c : Client} (h : c.token = none) : c.session = none :=
  Option.map_eq_none_iff.mp h

section Issue

variable (c : Client) {r : Request} (p : Pending)

theorem issue_of_sent {sent : Sent} (h : r.send? = .ok sent) : c.issue r p = (c, .ask sent p) := by
  unfold issue
  rw [h]

theorem issue_of_unsent {fault : TransportFault} (h : r.send? = .error fault) :
    c.issue r p = (c.fail p (.transport fault.message)).step := by
  unfold issue
  rw [h]

end Issue

/-- A request is sent and waits, or it cannot be sent and fails at once. -/
theorem issue_cases (c : Client) (r : Request) (p : Pending) :
    (∃ sent, c.issue r p = (c, .ask sent p)) ∨
    ∃ message, c.issue r p = (c.fail p (.transport message)).step := by
  cases hsend : r.send? with
  | ok sent => exact Or.inl ⟨sent, c.issue_of_sent p hsend⟩
  | error fault => exact Or.inr ⟨fault.message, c.issue_of_unsent p hsend⟩

/-! ## Beginnings -/

/-- What an operation waits for once it has asked with an unchanged client. -/
inductive Awaits (c : Client) : Operation → Pending → Prop
  | start {s : Session} (h : c.session = some s) : Awaits c .start .startFavorites
  | logIn (email password : String) : Awaits c (.logIn email password) .logIn
  | signUp (name email password address : String) :
      Awaits c (.signUp name email password) (.signUp address)
  | refreshSession {s : Session} (h : c.session = some s) :
      Awaits c .refreshSession (.refreshSession s)
  | currentUser {s : Session} (h : c.session = some s) : Awaits c .currentUser .currentUser
  | toggle {s : Session} (h : c.session = some s) (id : String) : Awaits c (.toggle id) (.toggle id)
  | check {s : Session} (h : c.session = some s) (id : String) : Awaits c (.check id) .check
  | book {s : Session} (h : c.session = some s) (view : Calendar.View) (offset : Time.Offset)
      (target : BookingTarget) (now : Time.Instant) (b : Booking) :
      Awaits c (.book view offset target now) (.book b)
  | reservations {s : Session} (h : c.session = some s) : Awaits c .reservations .reservations
  | cancelVisit {s : Session} (h : c.session = some s) (v : Visit) :
      Awaits c (.cancelVisit v) (.cancelVisit v.id)
  | resend (email : String) (now : Int) :
      Awaits c (.resend email now) (.resend (Text.trim email) now)
  | registerDevice {s : Session} (h : c.session = some s) (device : String) :
      Awaits c (.registerDevice device) .registerDevice
  | setNotifications {s : Session} (h : c.session = some s) (enabled : Bool) :
      Awaits c (.setNotifications enabled) .setNotifications

/-- How an operation can begin. -/
inductive Begins (c : Client) : Operation → Client × Step → Prop
  | refused {op : Operation} (h : op.mayRefuse = true) (a : Answer) : Begins c op (c, .done a)
  | asked {op : Operation} {p : Pending} (h : Awaits c op p) (r : Request) :
      Begins c op (c.issue r p)
  | startOnDevice (h : c.session = none) :
      Begins c .start (c.loadDeviceFavorites, .done (.favorites .device))
  | signOut {s : Session} (h : c.session = some s) (r : Request) :
      Begins c .signOut (c.dropSession.issue r .signOut)
  | signOutAgain (h : c.session = none) :
      Begins c .signOut (c.dropSession.afterSignOut, .done .signedOut)
  | locate (l : Location) : Begins c (.locate l) (c.beginFetch (c.feed.locate l))
  | refetch : Begins c .refetch (c.beginFetch c.feed.retry)
  | flip (h : c.session = none) (guest : c.settings.guestFavorites = true) (id : String) :
      Begins c (.toggle id) ((c.flipFavorite id).1,
        .done (.toggled (.ok ⟨id, (c.flipFavorite id).2, .device⟩)))
  | noToggle (h : c.session = none) (guest : c.settings.guestFavorites = false) (id : String) :
      Begins c (.toggle id)
        (c.prompt ToggleFault.loginPrompt, .done (.toggled (.error .loginRequired)))
  | noBooking (h : c.session = none) (view : Calendar.View) (offset : Time.Offset)
      (target : BookingTarget) (now : Time.Instant) :
      Begins c (.book view offset target now)
        (c.prompt BookingFault.loginPrompt, .done (.booked (.error .loginRequired)))
  | dropVisit (v : Visit) : Begins c (.cancelVisit v) (c.dropVisit v.id).step

/-- An operation that needs a token asks with it, or is refused. -/
theorem begins_withToken {c : Client} {op : Operation} (h : op.mayRefuse = true)
    (answer : Failure → Answer) (r : String → Request) (p : Pending)
    (hp : ∀ s, c.session = some s → Awaits c op p) : Begins c op (c.withToken answer r p) := by
  unfold withToken
  split
  · next token htoken =>
    obtain ⟨s, hs⟩ := token_eq_some htoken
    exact .asked (hp s hs) _
  · exact .refused h _

theorem begins_start (c : Client) : Begins c .start c.beginStart := by
  unfold beginStart
  split
  · next token htoken =>
    obtain ⟨s, hs⟩ := token_eq_some htoken
    exact .asked (.start hs) _
  · next hnone => exact .startOnDevice (token_eq_none hnone)

theorem begins_toggle (c : Client) (id : String) : Begins c (.toggle id) (c.beginToggle id) := by
  unfold beginToggle
  split
  · next token htoken =>
    obtain ⟨s, hs⟩ := token_eq_some htoken
    exact .asked (.toggle hs id) _
  · next hnone =>
    split
    · next guest => exact .flip (token_eq_none hnone) guest id
    · next guest => exact .noToggle (token_eq_none hnone) (by simpa using guest) id

theorem begins_check (c : Client) (id : String) : Begins c (.check id) (c.beginCheck id) := by
  unfold beginCheck
  split
  · next token htoken =>
    obtain ⟨s, hs⟩ := token_eq_some htoken
    exact .asked (.check hs id) _
  · exact .refused rfl _

theorem begins_book (c : Client) (view : Calendar.View) (offset : Time.Offset)
    (target : BookingTarget) (now : Time.Instant) :
    Begins c (.book view offset target now) (c.beginBooking view offset target now) := by
  unfold beginBooking
  split
  · next hnone => exact .noBooking (token_eq_none hnone) view offset target now
  · next token htoken =>
    obtain ⟨s, hs⟩ := token_eq_some htoken
    split
    · next b _ => exact .asked (.book hs view offset target now b) _
    · exact .refused rfl _

theorem begins_cancelVisit (c : Client) (v : Visit) :
    Begins c (.cancelVisit v) (c.beginCancelVisit v) := by
  unfold beginCancelVisit
  split
  · exact begins_withToken rfl _ _ _ fun _ hs => .cancelVisit hs v
  · exact .dropVisit v

theorem begins_signOut (c : Client) : Begins c .signOut c.beginSignOut := by
  unfold beginSignOut
  split
  · next s hs => exact .signOut hs _
  · next hnone => exact .signOutAgain hnone

/-- **Every operation begins in one of these ways.** -/
theorem begins (c : Client) (op : Operation) : Begins c op (c.begin op) := by
  -- the operations that need a token alone are `begins_withToken`; the others have their own lemma
  cases op with
  | start => exact c.begins_start
  | logIn email password =>
    show Begins c _ (c.beginLogIn email password)
    unfold beginLogIn
    split
    · exact .asked (.logIn email password) _
    · exact .refused rfl _
  | signUp name email password =>
    show Begins c _ (c.beginSignUp name email password)
    unfold beginSignUp
    split
    · exact .asked (.signUp name email password _) _
    · exact .refused rfl _
  | signOut => exact c.begins_signOut
  | refreshSession =>
    show Begins c _ c.beginRefresh
    unfold beginRefresh
    split
    · next s hs => exact .asked (.refreshSession hs) _
    · exact .refused rfl _
  | currentUser =>
    show Begins c _
      (c.withToken (fun e => .user (.error e)) (Api.currentUser c.base) .currentUser)
    exact begins_withToken rfl _ _ _ fun _ hs => .currentUser hs
  | locate l => exact .locate l
  | refetch => exact .refetch
  | toggle id => exact c.begins_toggle id
  | check id => exact c.begins_check id
  | book view offset target now => exact c.begins_book view offset target now
  | reservations =>
    show Begins c _
      (c.withToken (fun e => .reservations (.error e)) (Api.reservations c.base) .reservations)
    exact begins_withToken rfl _ _ _ fun _ hs => .reservations hs
  | cancelVisit v => exact c.begins_cancelVisit v
  | resend email now =>
    show Begins c _ (c.beginResend email now)
    unfold beginResend
    dsimp only
    split
    · exact .refused rfl _
    · exact .asked (.resend email now) _
  | registerDevice device =>
    show Begins c _ (c.beginRegister device)
    unfold beginRegister
    dsimp only
    split
    · exact .refused rfl _
    · exact begins_withToken rfl _ _ _ fun _ hs => .registerDevice hs device
  | setNotifications enabled =>
    exact begins_withToken rfl _ _ _ fun _ hs => .setNotifications hs enabled

/-- A report about the location waits for a fetch, fails to send it, or asks nothing. -/
theorem beginFetch_cases (c : Client) (launched : Feed × Option (Ticket × Position)) :
    (∃ r ticket, c.beginFetch launched = issue { c with feed := launched.1 } r (.feed ticket)) ∨
    c.beginFetch launched = ({ c with feed := launched.1 }, .done (.feed .skipped)) := by
  unfold beginFetch
  split
  · next ticket here _ => exact Or.inl ⟨_, ticket, rfl⟩
  · exact Or.inr rfl

end Client

end Shoreline
