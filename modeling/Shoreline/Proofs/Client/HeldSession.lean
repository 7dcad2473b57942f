import Shoreline.Proofs.Client.Deeds
import Shoreline.Proofs.Client.Renewal
import Shoreline.Proofs.Http.Reply
import Shoreline.Proofs.Store.Sessions

/-!
# `Shoreline.Proofs.Client.HeldSession` — the session held is the session kept

A client holds its session in memory and keeps a copy in the store. The two are written one after the
other, by a log-in, a renewal and a sign-out, and only reading the copy asks whether it can be used: a
session without a token, or of a user without an id, is kept but not loaded. So what is loaded is the
session that is held, if it can be used, and none otherwise; and that is what a client opened on the same
store holds.

The invariant is `Client.KeepsHeld`. Most steps are frames and leave both copies; the others write both
(`keepSession`) or forget both (`dropSession`).

## Contents
- `Client.KeepsHeld` with `of_frame`, `keepSession`, `dropSession`; `keepsHeld_begin`,
  `keepsHeld_resume`, `keepsHeld_touch`.
- `Traffic.Deed.Clocked`, `Traffic.keepsHeld_does`, `Traffic.keepsHeld_doesAll`.
- `Traffic.loaded_session_is_held`, with a run in which a renewal outlives a sign-out.
-/

namespace Shoreline

open Json Http

namespace Client

/-! ## The invariant -/

/-- Writes succeed, and what is loaded is the session that is held, if it can be used. -/
structure KeepsHeld (c : Client) : Prop where
  sound : c.store.fault = none
  loaded : c.store.loadSession = c.session.filter Session.isUsable

namespace KeepsHeld

/-- A client starts with the session that it loads. -/
theorem opened (settings : Settings) {store : Store} (sound : store.fault = none) :
    (Client.opened settings store).KeepsHeld where
  sound := sound
  loaded := by
    show store.loadSession = store.loadSession.filter Session.isUsable
    unfold Store.loadSession
    rw [Option.filter_filter]
    simp only [Bool.and_self]

/-- What changes neither copy keeps them in agreement. -/
theorem of_frame {key : Option String} {c d : Client} (h : c.KeepsHeld) (hframe : Frame key c d)
    (hkey : key ≠ some Key.session) : d.KeepsHeld where
  sound := hframe.store.fault.trans h.sound
  loaded := by
    rw [Store.loadSession_congr (hframe.store.get? _ hkey), h.loaded, hframe.session]

/-- A session that is held and kept anew is the one that is loaded. -/
theorem keepSession {c : Client} (h : c.KeepsHeld) {s : Session} (storable : s.Storable) :
    (c.keepSession s).1.KeepsHeld where
  sound := (changedAt_keepSession c s).fault.trans h.sound
  loaded := by
    rw [keepSession_store, keepSession_session, Store.loadSession_saveSession h.sound storable]

/-- A session that is forgotten is neither held nor loaded. -/
theorem dropSession {c : Client} (h : c.KeepsHeld) : c.dropSession.KeepsHeld where
  sound := (Store.changedAt_clearSession c.store).fault.trans h.sound
  loaded := Store.loadSession_clearSession h.sound

end KeepsHeld

/-! ## Steps -/

theorem keepsHeld_begin {c : Client} (h : c.KeepsHeld) (op : Operation) :
    (c.begin op).1.KeepsHeld := by
  by_cases hout : op = .signOut
  · subst hout
    exact h.dropSession.of_frame c.frame_begin_signOut nofun
  · exact h.of_frame (c.frame_begin hout) (Operation.writes_ne_session hout)

/-- A log-in and a renewal keep what the server has granted; no other reply brings a session. -/
theorem keepsHeld_resume {c : Client} (h : c.KeepsHeld) (p : Pending) (r : Reply) {now : Int}
    (hnow : IsInt64 now) : (c.resume p r now).1.KeepsHeld := by
  by_cases hgrants : p.grants = false
  · exact h.of_frame (c.frame_resume hgrants r now) (Pending.writes_ne_session hgrants)
  · cases hread : p.read r with
    | error e =>
      rw [resume_of_error hread]
      exact h.of_frame (c.frame_fail p e) (Pending.writesRefused_ne_session p)
    | ok payload =>
      rw [resume_of_ok hread]
      cases p with
      | logIn =>
        obtain ⟨room, doc, hgrant⟩ := Reply.of_decoded hread
        have hkept := h.keepSession (Session.storable_ofGrant hgrant hnow)
        rw [succeed_logIn c payload now]
        exact hkept.of_frame (c.frame_loggedIn payload now) nofun
      | refreshSession s =>
        obtain ⟨room, doc, hgrant⟩ := Reply.of_decoded hread
        rw [succeed_refreshSession c s payload now]
        exact h.keepSession (Session.storable_renewed s hgrant hnow)
      | _ => exact absurd rfl hgrants

theorem keepsHeld_touch {c : Client} (h : c.KeepsHeld) (k : Touch) : (c.touch k).KeepsHeld :=
  h.of_frame (c.frame_touch k) k.writes_ne_session

end Client

namespace Traffic

/-! ## Runs -/

/-- If a reply arrives, then at a time that a clock of 64 bits shows. -/
def Deed.Clocked : Deed → Prop
  | .event (.reply _ _ now) => IsInt64 now
  | _ => True

theorem keepsHeld_does {t : Traffic} (h : t.client.KeepsHeld) {d : Deed} (clocked : d.Clocked) :
    (t.does d).client.KeepsHeld := by
  cases d with
  | touch k => exact Client.keepsHeld_touch h k
  | event e =>
    show (t.after e).client.KeepsHeld
    cases e with
    | begin op =>
      rw [client_begin]
      exact Client.keepsHeld_begin h op
    | reply i r now =>
      cases hw : t.waiting[i]? with
      | none =>
        rw [after_reply_missing hw]
        exact h
      | some w =>
        rw [client_reply hw]
        exact Client.keepsHeld_resume h w.pending r clocked

theorem keepsHeld_doesAll {t : Traffic} (h : t.client.KeepsHeld) {ds : List Deed}
    (clocked : ∀ d ∈ ds, d.Clocked) : (t.doesAll ds).client.KeepsHeld :=
  doesAll_induction (Q := fun u => u.client.KeepsHeld) (fun _ _ hu hd => keepsHeld_does hu hd) h
    clocked

/-- **The session that is loaded is the one that is held.** A client is opened on a store whose writes
succeed, whatever text it keeps as a session. After any deeds, in whatever order replies arrive and
whatever they hold, the store loads the session that the client holds, if that can be used, and none
otherwise. So a client that is opened on the same store then holds the same session if it can be used,
and is signed out otherwise. -/
theorem loaded_session_is_held (settings : Settings) (store : Store) (ds : List Deed)
    (sound : store.fault = none) (clocked : ∀ d ∈ ds, d.Clocked) :
    ((opened settings store).doesAll ds).client.store.loadSession =
      ((opened settings store).doesAll ds).client.session.filter Session.isUsable ∧
    ∀ later, (Client.opened later ((opened settings store).doesAll ds).client.store).session =
      ((opened settings store).doesAll ds).client.session.filter Session.isUsable := by
  have hopened : (opened settings store).client.KeepsHeld := .opened settings sound
  have hloaded := (keepsHeld_doesAll hopened clocked).loaded
  exact ⟨hloaded, fun _ => hloaded⟩

/-- A user renews the session, changes the theme and signs out; then the grant arrives. -/
def outliving : List Deed :=
  [.event (.begin .refreshSession), .touch (.setTheme .dark), .event (.begin .signOut),
    .event (.reply 0 renewal 2)]

/-- In that run the renewed session is held at the end, and it is the one that is loaded. -/
theorem loaded_session_is_held_outliving :
    sampleStore.fault = none ∧ (∀ d ∈ outliving, d.Clocked) ∧
    ((opened sampleSettings sampleStore).doesAll outliving).client.store.loadSession =
      some renewedSession := by
  have clocked : ∀ d ∈ outliving, d.Clocked := by
    simp [outliving, Deed.Clocked, IsInt64]
  have hheld : ((opened sampleSettings sampleStore).doesAll outliving).client.session =
      some renewedSession := by
    rw [opened_sampleStore]
    decide +kernel
  obtain ⟨hloaded, _⟩ :=
    loaded_session_is_held sampleSettings sampleStore outliving rfl clocked
  rw [hheld] at hloaded
  exact ⟨rfl, clocked, hloaded⟩

end Traffic

end Shoreline
