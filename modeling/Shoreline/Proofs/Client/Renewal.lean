import Shoreline.Proofs.Client.Traffic

/-!
# `Shoreline.Proofs.Client.Renewal` — renewals that outlive their session

A renewal copies the session, asks for a new access token, and keeps the renewed copy whatever has
become of the session since. So a sign-out is final only while no renewal is waiting: a renewal that
completes later brings the session back, and one that completes after another log-in replaces the
other user's session. This module says exactly when that happens.

## Contents
- `Client.SignedOut`, `Client.SameSession`, `Client.Holds`.
- `sameSession_renewed_iff`: when the end of a renewal leaves the session.
- `signedOut_of_quiet`, `not_signedOut_of_renews`: one event; `signedOut_along_iff`: a run.
- `renewal_respects_sign_out_iff`, and a run in which a renewal undoes a sign-out.
-/

namespace Shoreline

open Text Http

namespace Client

/-- No session is held, and none is kept. -/
def SignedOut (c : Client) : Prop := c.session = none ∧ c.store.get? Key.session = none

/-- Two states of a client hold and keep the same session. -/
def SameSession (c d : Client) : Prop :=
  d.session = c.session ∧ d.store.get? Key.session = c.store.get? Key.session

/-- A session is held, and nothing is left to write to keep it. -/
def Holds (c : Client) (s : Session) : Prop :=
  c.session = some s ∧ (c.store.fault ≠ none ∨ c.store.get? Key.session = some s.toValue.compact)

/-- Keeping a session changes nothing exactly if it is held and kept already. -/
theorem sameSession_keepSession_iff (c : Client) (s : Session) :
    SameSession c (c.keepSession s).1 ↔ c.Holds s := by
  unfold SameSession Holds
  rw [keepSession_session, keepSession_store]
  unfold Store.saveSession
  rw [Store.get?_attempt_save]
  -- a store that fails to write keeps what it has, and the session is held all the same
  by_cases hf : c.store.fault = none
  · rw [if_pos hf]
    simp only [hf, ne_eq, not_true_eq_false, false_or, eq_comm]
  · rw [if_neg hf]
    simp only [hf, ne_eq, not_false_eq_true, true_or, and_true, eq_comm]

/-- A client that keeps the session under its key and holds none stays signed out. -/
theorem SignedOut.of_frame {key : Option String} {c d : Client} (h : c.SignedOut)
    (hframe : Frame key c d) (hkey : key ≠ some Key.session) : d.SignedOut := by
  obtain ⟨hheld, hkept⟩ := h
  refine ⟨?_, ?_⟩
  · rw [hframe.session, hheld]
  · rw [hframe.store.get? _ hkey, hkept]

/-- A sign-out leaves a client that is signed out as it is. -/
theorem SignedOut.dropSession {c : Client} (h : c.SignedOut) : c.dropSession.SignedOut := by
  refine ⟨rfl, ?_⟩
  show (c.store.attempt c.store.clearSession).get? Key.session = none
  rcases c.store.get?_clearSession with hgone | hsame
  · exact hgone
  · rw [hsame, h.2]

end Client

/-- Only a sign-out writes the session before it asks. -/
theorem Operation.writes_ne_session {op : Operation} (h : op ≠ .signOut) :
    op.writes ≠ some Key.session := by
  cases op with
  | signOut => exact absurd rfl h
  | toggle id => exact mt Option.some.inj (by decide)
  | cancelVisit v => exact mt Option.some.inj (by decide)
  | _ => exact nofun

/-- Only a log-in and a renewal write the session after they asked. -/
theorem Pending.writes_ne_session {p : Pending} (h : p.grants = false) :
    p.writes ≠ some Key.session := by
  cases p with
  | logIn => cases h
  | refreshSession s => cases h
  | book b => exact mt Option.some.inj (by decide)
  | cancelVisit id => exact mt Option.some.inj (by decide)
  | resend email now => exact mt Option.some.inj (Key.resend_ne (by decide) email)
  | _ => exact nofun

/-- A failure writes no session. -/
theorem Pending.writesRefused_ne_session (p : Pending) : p.writesRefused ≠ some Key.session := by
  cases p with
  | resend email now => exact mt Option.some.inj (Key.resend_ne (by decide) email)
  | _ => exact nofun

namespace Traffic

/-! ## One event -/

/-- A client that is signed out is still so after an operation has begun. -/
theorem signedOut_begin {t : Traffic} (h : t.client.SignedOut) (op : Operation) :
    (t.after (.begin op)).client.SignedOut := by
  rw [client_begin]
  cases op with
  | signOut => exact h.dropSession.of_frame t.client.frame_begin_signOut nofun
  | _ => exact h.of_frame (t.client.frame_begin nofun) (Operation.writes_ne_session nofun)

/-- The end of a renewal leaves what keeping the renewed session leaves. -/
theorem client_renewal {t : Traffic} {i : Nat} {s : Session} {under : Option Session} {r : Reply}
    {grant : TokenGrant} (hw : t.waiting[i]? = some ⟨.refreshSession s, under⟩)
    (hread : Pending.read (.refreshSession s) r = .ok grant) (now : Int) :
    (t.after (.reply i r now)).client = (t.client.keepSession (s.renewed grant now)).1 := by
  rw [client_reply hw, Client.resume_of_ok hread]
  exact t.client.succeed_refreshSession s grant now

/-- After a renewal there is a session, whether there was one before or not. -/
theorem not_signedOut_of_renews {t : Traffic} {e : Event} (h : t.Renews e) :
    ¬ (t.after e).client.SignedOut := by
  obtain ⟨s, hc⟩ := h
  cases e with
  | begin op => exact hc.elim
  | reply i r now =>
    obtain ⟨⟨p, under⟩, grant, hw, rfl, hread⟩ := hc
    rintro ⟨hheld, _⟩
    rw [client_renewal hw hread, Client.keepSession_session] at hheld
    cases hheld

/-- A reply that cannot be used leaves a client that is signed out as it is. -/
theorem signedOut_refused {c : Client} (h : c.SignedOut) (p : Pending) (e : Failure) :
    (c.fail p e).1.SignedOut :=
  h.of_frame (c.frame_fail p e) p.writesRefused_ne_session

/-- A client that is signed out is still so after anything but the end of a log-in or a renewal. -/
theorem signedOut_of_quiet {t : Traffic} (h : t.client.SignedOut) {e : Event}
    (noLogIn : ¬ t.LogsIn e) (noRenewal : ¬ t.Renews e) : (t.after e).client.SignedOut := by
  cases e with
  | begin op => exact signedOut_begin h op
  | reply i r now =>
    cases hw : t.waiting[i]? with
    | none =>
      rw [after_reply_missing hw]
      exact h
    | some w =>
      rw [client_reply hw]
      cases hread : w.pending.read r with
      | error failure =>
        rw [Client.resume_of_error hread]
        exact signedOut_refused h w.pending failure
      | ok payload =>
        -- of the operations that are answered only the two that are excluded bring a session
        have hquiet : w.pending.grants = false := by
          obtain ⟨p, under⟩ := w
          cases p with
          | logIn => exact absurd ⟨_, payload, hw, rfl, hread⟩ noLogIn
          | refreshSession s => exact absurd ⟨s, _, payload, hw, rfl, hread⟩ noRenewal
          | _ => rfl
        exact h.of_frame (Client.frame_resume _ hquiet r now) (Pending.writes_ne_session hquiet)

/-! ## Runs -/

/-- A client that is signed out stays so until a log-in completes, exactly if no renewal completes. -/
theorem signedOut_along_iff {t : Traffic} (h : t.client.SignedOut) {es : List Event}
    (noLogIn : Along (fun u e => ¬ u.LogsIn e) t es) :
    Along (fun u e => (u.after e).client.SignedOut) t es ↔
    Along (fun u e => ¬ u.Renews e) t es := by
  -- by induction on the events: as long as both sides hold the client is signed out
  induction es generalizing t with
  | nil => exact Iff.rfl
  | cons e es ih =>
    obtain ⟨here, later⟩ := noLogIn
    constructor
    · rintro ⟨hout, hrest⟩
      have hnot : ¬ t.Renews e := fun hr => not_signedOut_of_renews hr hout
      exact ⟨hnot, (ih hout later).mp hrest⟩
    · rintro ⟨hnot, hrest⟩
      have hout := signedOut_of_quiet h here hnot
      exact ⟨hout, (ih hout later).mpr hrest⟩

/-- **When a sign-out is final.** Where the session that a renewal started from is no longer held, the
end of the renewal leaves the session alone exactly if the renewed session is held and kept already. So
a client that is signed out stays so until a log-in completes, exactly if no renewal completes. -/
theorem renewal_respects_sign_out_iff (t : Traffic) :
    (∀ i s under r now grant, t.waiting[i]? = some ⟨.refreshSession s, under⟩ →
      Pending.read (.refreshSession s) r = .ok grant →
      ((t.client.session = some s ∨ t.client.SameSession (t.after (.reply i r now)).client) ↔
        (t.client.session = some s ∨ t.client.Holds (s.renewed grant now)))) ∧
    (t.client.SignedOut → ∀ es, Along (fun u e => ¬ u.LogsIn e) t es →
      (Along (fun u e => (u.after e).client.SignedOut) t es ↔
        Along (fun u e => ¬ u.Renews e) t es)) := by
  constructor
  · intro i s under r now grant hw hread
    have hsame : t.client.SameSession (t.after (.reply i r now)).client ↔
        t.client.Holds (s.renewed grant now) := by
      rw [client_renewal hw hread]
      exact t.client.sameSession_keepSession_iff _
    rw [hsame]
  · intro hout es noLogIn
    exact signedOut_along_iff hout noLogIn

/-- A user who signed out while a renewal was waiting. -/
def renewing : Traffic :=
  ofUser.run [.begin .refreshSession, .begin .signOut, .reply 1 (granted .null) 1]

/-- The grant that the renewal is waiting for. -/
def renewal : Reply :=
  granted (.obj [("accessToken", .str "b"), ("tokenType", .str "Bearer"), ("expiresIn", .int 900)])

/-- The session that the renewal makes. -/
def renewedSession : Session := sampleSession.renewed ⟨"b", "Bearer", 900⟩ 2

/-- **A renewal undoes a sign-out.** A user renews the session, signs out while the renewal is waiting,
and the sign-out is confirmed: no session is held or kept. Then the grant arrives, and the renewed
session is held and kept. -/
theorem renewal_undoes_sign_out :
    renewing.client.session = none ∧ renewing.client.store.get? Key.session = none ∧
    (renewing.after (.reply 0 renewal 2)).client.session = some renewedSession ∧
    (renewing.after (.reply 0 renewal 2)).client.store.get? Key.session =
      some renewedSession.toValue.compact := by
  decide +kernel

/-- The session that an operation renews, if it waits for that. -/
def renewed? : Pending → Option Session
  | .refreshSession s => some s
  | _ => none

theorem eq_of_renewed? {p : Pending} {s : Session} (h : renewed? p = some s) :
    p = .refreshSession s := by
  cases p with
  | refreshSession s' =>
    obtain rfl := Option.some.inj h
    rfl
  | _ => cases h

/-- The grant is one that the renewal can use, and in that run the renewal waits for it. -/
theorem waits_renewing :
    ∃ under grant, renewing.waiting[0]? = some ⟨.refreshSession sampleSession, under⟩ ∧
      Pending.read (.refreshSession sampleSession) renewal = .ok grant := by
  have hwaits : renewing.waiting[0]?.bind (renewed? ·.pending) = some sampleSession := by
    decide +kernel
  have hread : (Pending.read (.refreshSession sampleSession) renewal).isOk = true := by
    decide +kernel
  obtain ⟨⟨p, under⟩, hw, hp⟩ := Option.bind_eq_some_iff.mp hwaits
  obtain rfl := eq_of_renewed? hp
  cases hok : Pending.read (.refreshSession sampleSession) renewal with
  | ok grant => exact ⟨under, grant, hw, rfl⟩
  | error e =>
    rw [hok] at hread
    cases hread

/-- In that run the user is signed out, nobody logs in, and the sign-out is not final. -/
theorem renewal_respects_sign_out_iff_renewing :
    (∃ under grant, renewing.waiting[0]? = some ⟨.refreshSession sampleSession, under⟩ ∧
      Pending.read (.refreshSession sampleSession) renewal = .ok grant) ∧
    ¬ renewing.client.SameSession (renewing.after (.reply 0 renewal 2)).client ∧
    renewing.client.SignedOut ∧
    Along (fun u e => ¬ u.LogsIn e) renewing [.reply 0 renewal 2] ∧
    ¬ Along (fun u e => (u.after e).client.SignedOut) renewing [.reply 0 renewal 2] := by
  have hout : renewing.client.SignedOut := by
    unfold Client.SignedOut
    decide +kernel
  obtain ⟨under, grant, hw, hread⟩ := waits_renewing
  have noLogIn : Along (fun u e => ¬ u.LogsIn e) renewing [.reply 0 renewal 2] := by
    refine ⟨?_, trivial⟩
    rintro ⟨w, payload, hsome, hp, _⟩
    rw [hw] at hsome
    obtain rfl := Option.some.inj hsome
    cases hp
  obtain ⟨hkept, hfinal⟩ := renewal_respects_sign_out_iff renewing
  refine ⟨⟨under, grant, hw, hread⟩, ?_, hout, noLogIn, ?_⟩
  · intro hsame
    -- signed out, the client holds neither the session nor the renewed one
    rcases (hkept 0 sampleSession under renewal 2 grant hw hread).mp (Or.inr hsame) with h | h
    · rw [hout.1] at h
      cases h
    · have hheld := h.1
      rw [hout.1] at hheld
      cases hheld
  · intro halong
    obtain ⟨hnot, _⟩ := (hfinal hout _ noLogIn).mp halong
    exact hnot ⟨sampleSession, _, grant, hw, rfl, hread⟩

end Traffic

end Shoreline
