import Shoreline.Proofs.Client.Begin
import Shoreline.Proofs.Store.Change

/-!
# `Shoreline.Proofs.Client.Effects` — what an operation can change

Between two requests an operation changes little: it writes under one key at most, and only a log-in,
a renewal and a sign-out touch the session. `Client.Frame` is what all other steps have in common.

## Contents
- `Operation.writes`, `Pending.writes`, `Pending.writesRefused`; `Pending.grants`.
- `Client.Frame`, with `frame_fail`, `frame_issue`, `frame_succeed`, `frame_begin`; `resume_of_ok`,
  `resume_of_error`.
- Sessions: `keepSession_*`, `frame_loggedIn`, `succeed_refreshSession`, `frame_begin_signOut`;
  `changedAt_resume`, `done_of_succeed`, `fault_begin`; `settings_begin`, `settings_resume`.
- Favorites: `answer_takeFeed`, `takeFeed_*`, `fail_favorites`.
-/

namespace Shoreline

open Text Http

/-- The key under which an operation writes before it asks, if there is one. -/
def Operation.writes : Operation → Option String
  | .signOut => some Key.session
  | .toggle _ => some Key.favorites
  | .cancelVisit _ => some Key.visits
  | _ => none

namespace Pending

/-- The key under which an operation writes once it has what it asked for, if there is one. -/
def writes : Pending → Option String
  | logIn | refreshSession _ => some Key.session
  | book _ | cancelVisit _ => some Key.visits
  | resend email _ => some (Key.resend email)
  | _ => none

/-- The key under which an operation may write when it was refused. -/
def writesRefused : Pending → Option String
  | resend email _ => some (Key.resend email)
  | _ => none

/-- Success brings a session. -/
def grants : Pending → Bool
  | logIn | refreshSession _ => true
  | _ => false

end Pending

namespace Client

/-! ## Frames -/

/-- The settings and the session stay, and the store changes under one key at most. -/
structure Frame (key : Option String) (c d : Client) : Prop where
  settings : d.settings = c.settings
  session : d.session = c.session
  store : Store.ChangedAt key c.store d.store

namespace Frame

theorem refl (key : Option String) (c : Client) : Frame key c c := ⟨rfl, rfl, .refl key _⟩

theorem trans {key : Option String} {c d e : Client} (h : Frame key c d) (h' : Frame key d e) :
    Frame key c e where
  settings := h'.settings.trans h.settings
  session := h'.session.trans h.session
  store := h.store.trans h'.store

/-- What changes nothing that is kept changes at most one thing. -/
theorem weaken {c d : Client} (h : Frame none c d) (key : Option String) : Frame key c d where
  settings := h.settings
  session := h.session
  store := ⟨fun k _ => h.store.get? k nofun, h.store.fault⟩

end Frame

theorem frame_prompt (c : Client) (message : String) : Frame none c (c.prompt message) :=
  ⟨rfl, rfl, .refl none _⟩

theorem frame_feed (c : Client) (f : Feed) : Frame none c { c with feed := f } :=
  ⟨rfl, rfl, .refl none _⟩

theorem frame_favorites (c : Client) (favorites : KeySet) :
    Frame none c { c with favorites := favorites } :=
  ⟨rfl, rfl, .refl none _⟩

theorem frame_store {key : Option String} (c : Client) {s : Store}
    (h : Store.ChangedAt key c.store s) : Frame key c { c with store := s } :=
  ⟨rfl, rfl, h⟩

theorem frame_afterSignOut (c : Client) : Frame none c c.afterSignOut := ⟨rfl, rfl, .refl none _⟩

theorem frame_mergeFlags (c : Client) (beaches : List Beach) :
    Frame none c (c.mergeFlags beaches).1 := by
  unfold mergeFlags
  split
  · exact frame_favorites c _
  · exact .refl none c

theorem frame_takeFeed (c : Client) (ticket : Ticket) (result : Except Failure (List Beach)) :
    Frame none c (c.takeFeed ticket result).1 := by
  unfold takeFeed
  dsimp only
  split
  · exact (frame_feed c _).trans (frame_mergeFlags _ _)
  · exact frame_feed c _

theorem frame_dropVisit (c : Client) (id : String) :
    Frame (some Key.visits) c (c.dropVisit id).1 := by
  unfold dropVisit
  split
  · next store found h => exact frame_store c (Store.changedAt_removeVisit h)
  · exact .refl _ c

/-! ## Replies -/

/-- A reply that holds what it should is taken up. -/
theorem resume_of_ok {c : Client} {p : Pending} {r : Reply} {payload : p.Payload}
    (h : p.read r = .ok payload) (now : Int) : c.resume p r now = c.succeed now p payload := by
  unfold resume
  rw [h]

/-- A reply that does not is a failure. -/
theorem resume_of_error {c : Client} {p : Pending} {r : Reply} {e : Failure}
    (h : p.read r = .error e) (now : Int) : c.resume p r now = (c.fail p e).step := by
  unfold resume
  rw [h]

/-! ## Failure -/

theorem frame_failToggle (c : Client) (e : Failure) : Frame none c (c.failToggle e).1 := by
  unfold failToggle
  split
  · exact frame_prompt c _
  · exact .refl none c

theorem frame_failBooking (c : Client) (e : Failure) : Frame none c (c.failBooking e).1 := by
  unfold failBooking
  split
  · exact frame_prompt c _
  · exact .refl none c

theorem frame_failResend (c : Client) (email : String) (now : Int) (e : Failure) :
    Frame (some (Key.resend email)) c (c.failResend email now e).1 := by
  unfold failResend
  split
  · split
    · exact frame_store c (Store.changedAt_stampResend _ _ _)
    · exact .refl _ c
  · exact .refl _ c

/-- A failure leaves the settings, the session and what is kept, but for the time of a mail. -/
theorem frame_fail (c : Client) (p : Pending) (e : Failure) :
    Frame p.writesRefused c (c.fail p e).1 := by
  cases p with
  | startFavorites => exact frame_favorites c _
  | logInFavorites session => exact frame_favorites c _
  | signOut => exact frame_afterSignOut c
  | feed ticket => exact frame_takeFeed c ticket _
  | toggle id => exact frame_failToggle c e
  | book b => exact frame_failBooking c e
  | resend email now => exact frame_failResend c email now e
  | _ => exact .refl _ c

theorem frame_fail_of_none (c : Client) {p : Pending} (h : p.writesRefused = none) (e : Failure) :
    Frame none c (c.fail p e).1 := by
  have hframe := frame_fail c p e
  rw [h] at hframe
  exact hframe

/-- A request that cannot be sent leaves all that is kept. -/
theorem frame_unsent (c : Client) (p : Pending) (message : String) :
    Frame none c (c.fail p (.transport message)).1 := by
  cases p with
  | resend email now =>
    -- only a refusal of the server can say that a mail was sent recently
    exact .refl none c
  | _ => exact frame_fail_of_none c rfl _

/-- Asking leaves the settings, the session and what is kept. -/
theorem frame_issue (c : Client) (r : Request) (p : Pending) : Frame none c (c.issue r p).1 := by
  rcases c.issue_cases r p with ⟨sent, h⟩ | ⟨message, h⟩
  · rw [h]
    exact .refl none c
  · rw [h]
    exact frame_unsent c p message

/-! ## Success -/

theorem frame_booked (c : Client) (b : Booking) (r : Reservation) :
    Frame (some Key.visits) c (c.booked b r).1 :=
  frame_store c (Store.changedAt_addVisit _ _)

theorem frame_resent (c : Client) (email : String) (now : Int) :
    Frame (some (Key.resend email)) c (c.resent email now).1 :=
  frame_store c (Store.changedAt_stampResend _ _ _)

theorem frame_marked (c : Client) (id : String) (mark : Api.FavoriteMark) :
    Frame none c (c.marked id mark).1 :=
  ⟨rfl, rfl, .refl none _⟩

/-- Success that brings no session leaves the settings, the session and all but one key. -/
theorem frame_succeed (c : Client) (now : Int) {p : Pending} (h : p.grants = false)
    (payload : p.Payload) : Frame p.writes c (c.succeed now p payload).1 := by
  cases p with
  | startFavorites => exact frame_favorites c _
  | logIn => cases h
  | logInFavorites session => exact frame_favorites c _
  | signOut => exact frame_afterSignOut c
  | refreshSession session => cases h
  | feed ticket => exact frame_takeFeed c ticket _
  | toggle id => exact frame_marked c id payload
  | book b => exact frame_booked c b payload
  | cancelVisit id => exact frame_dropVisit c id
  | resend email now => exact frame_resent c email now
  | _ => exact .refl _ c

/-- A reply to an operation that gets no session leaves the settings, the session and all but one
key. -/
theorem frame_resume (c : Client) {p : Pending} (h : p.grants = false) (r : Reply) (now : Int) :
    Frame p.writes c (c.resume p r now).1 := by
  cases hread : p.read r with
  | ok payload =>
    rw [resume_of_ok hread]
    exact c.frame_succeed now h payload
  | error e =>
    rw [resume_of_error hread]
    show Frame p.writes c (c.fail p e).1
    cases p with
    | resend email now => exact frame_failResend c email now e
    | _ => exact (frame_fail_of_none c rfl e).weaken _

/-! ## Beginnings -/

theorem frame_beginFetch (c : Client) (launched : Feed × Option (Ticket × Position)) :
    Frame none c (c.beginFetch launched).1 := by
  rcases c.beginFetch_cases launched with ⟨r, ticket, h⟩ | h
  · rw [h]
    exact (frame_feed c launched.1).trans (frame_issue _ r _)
  · rw [h]
    exact frame_feed c launched.1

theorem frame_flipFavorite (c : Client) (id : String) :
    Frame (some Key.favorites) c (c.flipFavorite id).1 :=
  ⟨rfl, rfl, Store.changedAt_saveFavorites _ _⟩

/-- What every beginning but that of a sign-out leaves. -/
theorem frame_begin (c : Client) {op : Operation} (h : op ≠ .signOut) :
    Frame op.writes c (c.begin op).1 := by
  -- `Begins` speaks of the beginning as a whole, so it is made a variable before the cases
  have hb := c.begins op
  revert hb
  generalize c.begin op = begun
  intro hb
  cases hb with
  | refused _ a => exact .refl _ c
  | asked _ r => exact (frame_issue c r _).weaken _
  | startOnDevice _ => exact frame_favorites c _
  | signOut _ r => exact absurd rfl h
  | signOutAgain _ => exact absurd rfl h
  | locate l => exact frame_beginFetch c _
  | refetch => exact frame_beginFetch c _
  | flip _ _ id => exact frame_flipFavorite c id
  | noToggle _ _ id => exact (frame_prompt c _).weaken _
  | noBooking => exact frame_prompt c _
  | dropVisit v => exact frame_dropVisit c v.id

/-! ## Sessions -/

theorem keepSession_session (c : Client) (s : Session) : (c.keepSession s).1.session = some s := by
  unfold keepSession
  dsimp only
  split <;> rfl

theorem keepSession_settings (c : Client) (s : Session) : (c.keepSession s).1.settings = c.settings := by
  unfold keepSession
  dsimp only
  split <;> rfl

theorem keepSession_store (c : Client) (s : Session) :
    (c.keepSession s).1.store = c.store.attempt (c.store.saveSession s) := by
  unfold keepSession
  dsimp only
  split
  · next h => rw [h]; rfl
  · next h => rw [h]; rfl

theorem changedAt_keepSession (c : Client) (s : Session) :
    Store.ChangedAt (some Key.session) c.store (c.keepSession s).1.store := by
  rw [keepSession_store]
  exact Store.ChangedAt.attempt fun _ h => Store.changedAt_saveSession h

/-- A renewal leaves the client that keeps the renewed session. -/
theorem refreshed_client (c : Client) (s : Session) (grant : TokenGrant) (now : Int) :
    (c.refreshed s grant now).1 = (c.keepSession (s.renewed grant now)).1 := by
  unfold refreshed
  dsimp only
  generalize c.keepSession (s.renewed grant now) = kept
  obtain ⟨d, fault⟩ := kept
  cases fault <;> rfl

theorem succeed_logIn (c : Client) (grant : LoginGrant) (now : Int) :
    c.succeed now .logIn grant = c.loggedIn grant now := rfl

theorem succeed_refreshSession (c : Client) (s : Session) (grant : TokenGrant) (now : Int) :
    (c.succeed now (.refreshSession s) grant).1 = (c.keepSession (s.renewed grant now)).1 :=
  c.refreshed_client s grant now

/-- A log-in leaves the session that it keeps. -/
theorem frame_loggedIn (c : Client) (grant : LoginGrant) (now : Int) :
    Frame none (c.keepSession (Session.ofGrant grant now)).1 (c.loggedIn grant now).1 := by
  unfold loggedIn
  exact frame_issue (c.keepSession (Session.ofGrant grant now)).1 _ _

theorem changedAt_loggedIn (c : Client) (grant : LoginGrant) (now : Int) :
    Store.ChangedAt (some Key.session) c.store (c.loggedIn grant now).1.store := by
  have hkept := changedAt_keepSession c (Session.ofGrant grant now)
  have hasked := (c.frame_loggedIn grant now).weaken (some Key.session)
  exact hkept.trans hasked.store

/-- Whatever waits, a reply changes the store under one key at most. -/
theorem changedAt_resume (c : Client) (p : Pending) (r : Reply) (now : Int) :
    Store.ChangedAt p.writes c.store (c.resume p r now).1.store := by
  cases hread : p.read r with
  | error e =>
    rw [resume_of_error hread]
    show Store.ChangedAt p.writes c.store (c.fail p e).1.store
    cases p with
    | resend email now => exact (frame_failResend c email now e).store
    | _ => exact ((frame_fail_of_none c rfl e).weaken _).store
  | ok payload =>
    rw [resume_of_ok hread]
    by_cases hgrants : p.grants = false
    · exact (c.frame_succeed now hgrants payload).store
    · cases p with
      | logIn =>
        rw [succeed_logIn c payload now]
        exact changedAt_loggedIn c payload now
      | refreshSession s =>
        rw [succeed_refreshSession c s payload now]
        exact changedAt_keepSession c _
      | _ => exact absurd rfl hgrants

/-- An operation that waits for one reply only has ended after it. -/
theorem done_of_succeed (c : Client) (now : Int) {p : Pending} (h : p ≠ .logIn)
    (payload : p.Payload) :
    ∃ a, c.succeed now p payload = ((c.succeed now p payload).1, .done a) := by
  cases p with
  | logIn => exact absurd rfl h
  | _ => exact ⟨_, rfl⟩

/-- A sign-out forgets the session before it asks anything. -/
theorem frame_begin_signOut (c : Client) : Frame none c.dropSession (c.begin .signOut).1 := by
  show Frame none c.dropSession c.beginSignOut.1
  unfold beginSignOut
  split
  · exact frame_issue _ _ _
  · exact frame_afterSignOut _

/-- Whether writes fail is not a matter of what begins. -/
theorem fault_begin (c : Client) (op : Operation) :
    (c.begin op).1.store.fault = c.store.fault := by
  by_cases hout : op = .signOut
  · subst hout
    have hdropped := (Store.changedAt_clearSession c.store).fault
    exact c.frame_begin_signOut.store.fault.trans hdropped
  · exact (c.frame_begin hout).store.fault

/-- Nothing that begins changes the settings. -/
theorem settings_begin (c : Client) (op : Operation) : (c.begin op).1.settings = c.settings := by
  by_cases hout : op = .signOut
  · subst hout
    exact c.frame_begin_signOut.settings
  · exact (c.frame_begin hout).settings

/-- No reply changes the settings. -/
theorem settings_resume (c : Client) (p : Pending) (r : Reply) (now : Int) :
    (c.resume p r now).1.settings = c.settings := by
  by_cases hgrants : p.grants = false
  · exact (c.frame_resume hgrants r now).settings
  · cases hread : p.read r with
    | error e =>
      rw [resume_of_error hread]
      exact (c.frame_fail p e).settings
    | ok payload =>
      rw [resume_of_ok hread]
      cases p with
      | logIn =>
        rw [succeed_logIn c payload now]
        exact (c.frame_loggedIn payload now).settings.trans (c.keepSession_settings _)
      | refreshSession s =>
        rw [succeed_refreshSession c s payload now]
        exact c.keepSession_settings _
      | _ => exact absurd rfl hgrants

/-! ## Favorites -/

/-- What a fetch answers is what the feed makes of it. -/
theorem answer_takeFeed (c : Client) (ticket : Ticket) (result : Except Failure (List Beach)) :
    (c.takeFeed ticket result).2 = .feed (c.feed.deliver ticket result).2 := by
  unfold takeFeed
  dsimp only
  split
  · next count hloaded => rw [hloaded]
  · rfl

/-- The answer to a fetch that was called off leaves the favorites. -/
theorem takeFeed_calledOff {c : Client} {ticket : Ticket} (h : ticket ∈ c.feed.calledOff)
    (result : Except Failure (List Beach)) :
    (c.takeFeed ticket result).1.favorites = c.favorites := by
  unfold takeFeed Feed.deliver
  rw [if_pos (by simpa using h)]

/-- A fetch that failed leaves the favorites. -/
theorem takeFeed_error (c : Client) (ticket : Ticket) (e : Failure) :
    (c.takeFeed ticket (.error e)).1.favorites = c.favorites := by
  by_cases hoff : ticket ∈ c.feed.calledOff
  · exact takeFeed_calledOff hoff _
  · unfold takeFeed Feed.deliver
    rw [if_neg (by simpa using hoff)]
    -- a fetch that was cancelled is told apart from one that failed, but neither brings a list
    cases e <;> rfl

/-- A list that was fetched adds the favorites that it marks. -/
theorem takeFeed_ok {c : Client} {ticket : Ticket} (h : ticket ∉ c.feed.calledOff)
    (beaches : List Beach) :
    (c.takeFeed ticket (.ok beaches)).1.favorites = (c.mergeFlags beaches).1.favorites := by
  unfold takeFeed Feed.deliver
  rw [if_neg (by simpa using h)]
  dsimp only
  unfold mergeFlags isLoggedIn
  split <;> rfl

/-- After a failure the favorites are what they were, or those of the device. -/
theorem fail_favorites (c : Client) (p : Pending) (e : Failure) :
    (c.fail p e).1.favorites = c.favorites ∨
    (c.fail p e).1.favorites = KeySet.ofKeys c.store.loadFavorites := by
  cases p with
  | startFavorites => exact Or.inr rfl
  | logInFavorites session => exact Or.inr rfl
  | signOut => exact Or.inr rfl
  | feed ticket => exact Or.inl (takeFeed_error c ticket e)
  | toggle id =>
    left
    show (c.failToggle e).1.favorites = c.favorites
    unfold failToggle
    split <;> rfl
  | book b =>
    left
    show (c.failBooking e).1.favorites = c.favorites
    unfold failBooking
    split <;> rfl
  | resend email now =>
    left
    show (c.failResend email now e).1.favorites = c.favorites
    unfold failResend
    split
    · split <;> rfl
    · rfl
  | _ => exact Or.inl rfl

end Client

end Shoreline
