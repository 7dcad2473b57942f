import Shoreline.Proofs.Client.Conduct
import Shoreline.Proofs.Client.Deeds
import Shoreline.Proofs.Client.Reserving

/-!
# `Shoreline.Proofs.Client.Failing` — what fails leaves the client as it was

An operation that answers with a failure has written nothing: not the session, not what is stored, not
the favorites, not the feed. The one trace it may leave is a prompt to log in, and that only a toggle and
a booking leave, when nobody is logged in or the server has rejected the access token.

An operation fails in one of three places: before it asks, for want of a session or of something to send;
when its request cannot be sent; and when the reply holds no success. It never fails after the reply has
been taken up, as long as writes succeed. There is a lemma for each of these.

## Contents
- `Answer.isFailure`, `Operation.loginPrompt?`, `Pending.loginPrompt?`, `Client.LacksLogin`.
- `Client.Spared`: the client is what it was, but for a prompt.
- `spared_fail`: a failed request; `isFailure_of_succeed`: success is no failure.
- `spared_begin`: failure at once; `spared_resume`: failure after a reply; `spared_conduct`.
- `Client.failure_leaves_client`, with a toggle whose token is rejected.
-/

namespace Shoreline

open Http

/-- The operation has failed. A mail that the server has sent already is not a failure: it is noted. -/
def Answer.isFailure : Answer → Bool
  | session (.error _) | signedUp (.error _) | user (.error _) | toggled (.error _)
  | isFavorite (.error _) | booked (.error _) | reservations (.error _)
  | acknowledged (.error _) => true
  | resent (.error .recentlySent) => false
  | resent (.error _) => true
  | _ => false

/-- The prompt that an operation raises for users who are not logged in, if it raises one. -/
def Operation.loginPrompt? : Operation → Option String
  | toggle _ => some ToggleFault.loginPrompt
  | book _ _ _ _ => some BookingFault.loginPrompt
  | _ => none

/-- The same of an operation that waits. -/
def Pending.loginPrompt? : Pending → Option String
  | toggle _ => some ToggleFault.loginPrompt
  | book _ => some BookingFault.loginPrompt
  | _ => none

/-- A rejected token is the one reason for which a booking counts as expired. -/
theorem BookingFault.ofFailure_eq_sessionExpired_iff (e : Failure) :
    ofFailure e = .sessionExpired ↔ e.isUnauthorized = true := by
  cases e with
  | refused r =>
    show (if r.isUnauthorized then sessionExpired else rejected r.code (refusalMessage r)) =
      .sessionExpired ↔ r.isUnauthorized = true
    split
    · next h => exact ⟨fun _ => h, fun _ => rfl⟩
    · next h => exact ⟨nofun, fun h' => absurd h' h⟩
  | _ => exact ⟨nofun, nofun⟩

/-- What a rejected reply tells. -/
theorem Pending.isUnauthorized_of_read {p : Pending} {r : Reply} {e : Failure} {m : String}
    (hp : p.loginPrompt? = some m) (h : p.read r = .error e) :
    e.isUnauthorized = true ↔ r.Unauthorized := by
  cases p with
  | toggle id => exact Reply.isUnauthorized_of_decoded h
  | book b => exact Reply.isUnauthorized_of_decoded h
  | _ => cases hp

namespace Client

/-- Nobody is logged in, or the server has rejected the access token. -/
def LacksLogin (c : Client) (log : Log) : Prop := c.session = none ∨ ∃ x ∈ log, x.2.Unauthorized

/-! ## What a failure leaves -/

/-- The client is what it was, but that the prompt of an operation was raised once if there is a reason
for it. -/
structure Spared (prompt? : Option String) (reason : Prop) (c d : Client) : Prop where
  prompted : ∀ m, prompt? = some m → reason → d = c.prompt m
  unchanged : prompt? = none ∨ ¬ reason → d = c

namespace Spared

variable {c d : Client} {prompt? : Option String} {reason : Prop}

/-- Where nothing has changed, there was no prompt to raise. -/
theorem refl (c : Client) (h : prompt? = none ∨ ¬ reason) : Spared prompt? reason c c where
  prompted m hm hreason := by
    rcases h with hnone | hnot
    · rw [hnone] at hm
      cases hm
    · exact absurd hreason hnot
  unchanged _ := rfl

/-- Where the prompt was raised, there was a reason. -/
theorem raised (c : Client) {m : String} (h : reason) : Spared (some m) reason c (c.prompt m) where
  prompted _ hm _ := congrArg c.prompt (Option.some.inj hm)
  unchanged hnot := hnot.elim nofun fun h' => absurd h h'

/-- What is stored does not change. -/
theorem store (h : Spared prompt? reason c d) : d.store = c.store := by
  cases hp : prompt? with
  | none => rw [h.unchanged (.inl hp)]
  | some m =>
    by_cases hreason : reason
    · rw [h.prompted m hp hreason]
      rfl
    · rw [h.unchanged (.inr hreason)]

theorem congr {reason' : Prop} (h : Spared prompt? reason c d)
    (hreason : ∀ m, prompt? = some m → (reason' ↔ reason)) : Spared prompt? reason' c d where
  prompted m hm h' := h.prompted m hm ((hreason m hm).mp h')
  unchanged hnot := by
    cases hp : prompt? with
    | none => exact h.unchanged (.inl hp)
    | some m =>
      rw [hp] at hnot
      exact h.unchanged (.inr fun h' => hnot.elim nofun fun hn => hn ((hreason m hp).mpr h'))

end Spared

/-- An operation that waits raises the prompt of the operation that began. -/
theorem Awaits.loginPrompt? {c : Client} {op : Operation} {p : Pending} (h : Awaits c op p) :
    p.loginPrompt? = op.loginPrompt? := by
  cases h <;> rfl

/-- An operation that raises a prompt and has asked belongs to a user who is logged in. -/
theorem Awaits.session {c : Client} {op : Operation} {p : Pending} (h : Awaits c op p) {m : String}
    (hp : p.loginPrompt? = some m) : c.session ≠ none := by
  cases h with
  | toggle hs _ =>
    rw [hs]
    exact nofun
  | book hs _ _ _ _ _ =>
    rw [hs]
    exact nofun
  | _ => cases hp

/-! ## Failed requests -/

theorem takeFeed_answer (c : Client) (ticket : Ticket) (result : Except Failure (List Beach)) :
    ∃ outcome, (c.takeFeed ticket result).2 = .feed outcome :=
  ⟨_, c.answer_takeFeed ticket result⟩

theorem spared_failToggle (c : Client) (e : Failure) :
    Spared (some ToggleFault.loginPrompt) (e.isUnauthorized = true) c (c.failToggle e).1 := by
  unfold failToggle
  split
  · next h => exact .raised c h
  · next h => exact .refl c (.inr h)

theorem spared_failBooking (c : Client) (e : Failure) :
    Spared (some BookingFault.loginPrompt) (e.isUnauthorized = true) c (c.failBooking e).1 := by
  rw [← BookingFault.ofFailure_eq_sessionExpired_iff]
  unfold failBooking
  split
  · next h => exact .raised c h
  · next h => exact .refl c (.inr h)

/-- A mail is noted only if the server says that it has sent one, and that is no failure. -/
theorem failResend_of_isFailure {c : Client} {email : String} {now : Int} {e : Failure}
    (failed : (c.failResend email now e).2.isFailure = true) :
    (c.failResend email now e).1 = c := by
  unfold failResend at failed ⊢
  split
  · split
    · next r h =>
      dsimp only at failed
      rw [if_pos h] at failed
      cases failed
    · rfl
  · rfl

/-- **A failed request leaves the client**, and raises the prompt if the token was rejected. -/
theorem spared_fail {c : Client} {p : Pending} {e : Failure}
    (failed : (c.fail p e).2.isFailure = true) :
    Spared p.loginPrompt? (e.isUnauthorized = true) c (c.fail p e).1 := by
  cases p with
  | startFavorites => cases failed
  | logInFavorites s => cases failed
  | signOut => cases failed
  | feed ticket =>
    obtain ⟨outcome, hanswer⟩ := c.takeFeed_answer ticket (.error e)
    have hfailed : (c.takeFeed ticket (.error e)).2.isFailure = true := failed
    rw [hanswer] at hfailed
    cases hfailed
  | toggle id => exact c.spared_failToggle e
  | book b => exact c.spared_failBooking e
  | resend email now =>
    have hsame : (c.fail (.resend email now) e).1 = c := failResend_of_isFailure failed
    rw [hsame]
    exact .refl c (.inl rfl)
  | _ => exact .refl c (.inl rfl)

/-! ## Success -/

/-- A session is kept, if writes succeed. -/
theorem keepSession_ok {c : Client} (sound : c.store.fault = none) (s : Session) :
    (c.keepSession s).2 = none := by
  obtain ⟨t, ht⟩ : ∃ t, c.store.saveSession s = .ok t := Store.save_ok sound _ _
  unfold keepSession
  rw [ht]

/-- So a renewal answers with the renewed session. -/
theorem refreshed_ok {c : Client} (sound : c.store.fault = none) (s : Session) (grant : TokenGrant)
    (now : Int) : (c.refreshed s grant now).2 = .session (.ok (s.renewed grant now)) := by
  have hkept := keepSession_ok sound (s.renewed grant now)
  unfold refreshed
  dsimp only
  generalize c.keepSession (s.renewed grant now) = kept at hkept ⊢
  obtain ⟨d, fault⟩ := kept
  obtain rfl : fault = none := hkept
  rfl

/-- **What was granted does not fail**, if writes succeed. -/
theorem isFailure_of_succeed {c d : Client} (sound : c.store.fault = none) {now : Int} {p : Pending}
    {payload : p.Payload} {a : Answer} (h : c.succeed now p payload = (d, .done a)) :
    a.isFailure = false := by
  cases p with
  | logIn =>
    rw [succeed_logIn c payload now] at h
    unfold loggedIn at h
    rcases issue_cases (c.keepSession (Session.ofGrant payload now)).1 _ _ with
      ⟨sent, hasked⟩ | ⟨message, hunsent⟩
    · rw [hasked] at h
      cases h
    · rw [hunsent] at h
      cases h
      rfl
  | refreshSession s =>
    have hanswer : .session (.ok (s.renewed payload now)) = a :=
      (refreshed_ok sound s payload now).symm.trans (Step.done.inj (congrArg Prod.snd h))
    rw [← hanswer]
    rfl
  | feed ticket =>
    obtain ⟨outcome, hanswer⟩ := c.takeFeed_answer ticket (.ok payload)
    have htaken : (c.takeFeed ticket (.ok payload)).2 = a := Step.done.inj (congrArg Prod.snd h)
    rw [← htaken, hanswer]
    rfl
  | cancelVisit id =>
    obtain ⟨store, hdropped, _⟩ := dropVisit_ok sound id
    have hanswer : (c.dropVisit id).2 = a := Step.done.inj (congrArg Prod.snd h)
    rw [← hanswer, hdropped]
    rfl
  | _ =>
    cases h
    rfl

/-! ## Failure at once -/

theorem prompt_ne (c : Client) (message : String) : c.prompt message ≠ c := by
  intro h
  have hprompts := congrArg (·.prompts.length) h
  simp [prompt] at hprompts

theorem begin_book_of_loggedOut {c : Client} (h : c.session = none) (view : Calendar.View)
    (offset : Time.Offset) (target : BookingTarget) (now : Time.Instant) :
    c.begin (.book view offset target now) =
      (c.prompt BookingFault.loginPrompt, .done (.booked (.error .loginRequired))) := by
  have htoken : c.token = none := Option.map_eq_none_iff.mpr h
  show c.beginBooking view offset target now = _
  unfold beginBooking
  rw [htoken]
  rfl

/-- A request has ended at once only if it could not be sent. -/
theorem fail_of_issue {c d : Client} {r : Request} {p : Pending} {a : Answer}
    (h : c.issue r p = (d, .done a)) :
    ∃ message, d = (c.fail p (.transport message)).1 ∧ a = (c.fail p (.transport message)).2 := by
  rcases c.issue_cases r p with ⟨sent, hasked⟩ | ⟨message, hunsent⟩
  · rw [hasked] at h
    cases h
  · rw [hunsent] at h
    cases h
    exact ⟨message, rfl, rfl⟩

/-- A fetch is no failure when it begins. -/
theorem isFailure_of_beginFetch {c d : Client} {launched : Feed × Option (Ticket × Position)}
    {a : Answer} (h : c.beginFetch launched = (d, .done a)) : a.isFailure = false := by
  rcases c.beginFetch_cases launched with ⟨r, ticket, hasked⟩ | hskipped
  · obtain ⟨message, _, hanswer⟩ := fail_of_issue (hasked.symm.trans h)
    obtain ⟨outcome, htaken⟩ :=
      takeFeed_answer { c with feed := launched.1 } ticket (.error (.transport message))
    rw [hanswer.trans htaken]
    rfl
  · rw [hskipped] at h
    cases h
    rfl

/-- **What fails when it begins leaves the client**, and raises its prompt if nobody is logged in. -/
theorem spared_begin {c d : Client} (sound : c.store.fault = none) {op : Operation} {a : Answer}
    (h : c.begin op = (d, .done a)) (failed : a.isFailure = true) :
    Spared op.loginPrompt? (c.session = none) c d := by
  have hb := c.begins op
  rw [h] at hb
  generalize hreached : (d, Step.done a) = reached at hb
  cases hb with
  | refused hmay a' =>
    cases hreached
    refine .refl c ?_
    cases op with
    | toggle id => cases hmay
    | book view offset target now =>
      -- without a session the booking would have raised the prompt
      right
      intro hnone
      have hprompted := begin_book_of_loggedOut hnone view offset target now
      exact c.prompt_ne _ (congrArg Prod.fst (hprompted.symm.trans h))
    | _ => exact .inl rfl
  | asked hwait r =>
    obtain ⟨message, hd, hanswer⟩ := fail_of_issue hreached.symm
    rw [hanswer] at failed
    have hsame := (spared_fail failed).unchanged (.inr Bool.false_ne_true)
    rw [hd, hsame]
    refine .refl c ?_
    cases hp : op.loginPrompt? with
    | none => exact .inl rfl
    | some m => exact .inr (hwait.session (hwait.loginPrompt?.trans hp))
  | startOnDevice _ =>
    cases hreached
    cases failed
  | signOut _ r =>
    obtain ⟨message, _, hanswer⟩ := fail_of_issue hreached.symm
    rw [hanswer] at failed
    cases failed
  | signOutAgain _ =>
    cases hreached
    cases failed
  | locate l =>
    rw [isFailure_of_beginFetch hreached.symm] at failed
    cases failed
  | refetch =>
    rw [isFailure_of_beginFetch hreached.symm] at failed
    cases failed
  | flip _ _ id =>
    cases hreached
    cases failed
  | noToggle hnone _ id =>
    cases hreached
    exact .raised c hnone
  | noBooking hnone =>
    cases hreached
    exact .raised c hnone
  | dropVisit v =>
    obtain ⟨store, hdropped, _⟩ := dropVisit_ok sound v.id
    rw [hdropped] at hreached
    cases hreached
    cases failed

/-! ## Failure after a reply -/

/-- **What fails with the reply leaves the client that asked**, and raises its prompt if the reply rejects
the token. -/
theorem spared_resume {c d : Client} (sound : c.store.fault = none) {p : Pending} {r : Reply}
    {now : Int} {a : Answer} (h : c.resume p r now = (d, .done a)) (failed : a.isFailure = true) :
    Spared p.loginPrompt? r.Unauthorized c d := by
  cases hread : p.read r with
  | ok payload =>
    rw [resume_of_ok hread] at h
    rw [isFailure_of_succeed sound h] at failed
    cases failed
  | error e =>
    rw [resume_of_error hread] at h
    cases h
    have hreason : ∀ m, p.loginPrompt? = some m → (r.Unauthorized ↔ e.isUnauthorized = true) :=
      fun m hm => (Pending.isUnauthorized_of_read hm hread).symm
    exact (spared_fail failed).congr hreason

/-- An operation that fails with the reply has asked with an unchanged client. -/
theorem awaits_of_isFailure {c d e : Client} {op : Operation} {sent : Sent} {p : Pending} {r : Reply}
    {now : Int} {a : Answer} (h : c.begin op = (d, .ask sent p))
    (hreply : d.resume p r now = (e, .done a)) (failed : a.isFailure = true) :
    d = c ∧ Awaits c op p := by
  rcases begin_ask_cases h with hasked | rfl | ⟨ticket, rfl⟩
  · exact hasked
  · -- a sign-out has succeeded, whatever the server says
    have hanswer : a = .signedOut := by
      unfold resume at hreply
      split at hreply
      · cases hreply
        rfl
      · cases hreply
        rfl
    rw [hanswer] at failed
    cases failed
  · have hanswer : ∃ outcome, a = .feed outcome := by
      unfold resume at hreply
      split at hreply
      · next beaches _ =>
        obtain ⟨outcome, htaken⟩ := d.takeFeed_answer ticket (.ok beaches)
        exact ⟨outcome, (Step.done.inj (congrArg Prod.snd hreply)).symm.trans htaken⟩
      · next failure _ =>
        obtain ⟨outcome, htaken⟩ := d.takeFeed_answer ticket (.error failure)
        exact ⟨outcome, (Step.done.inj (congrArg Prod.snd hreply)).symm.trans htaken⟩
    obtain ⟨outcome, rfl⟩ := hanswer
    cases failed

/-- **What fails when it runs alone leaves the client**, and raises its prompt for want of a log-in. -/
theorem spared_conduct {c : Client} (sound : c.store.fault = none) {w : World} {op : Operation}
    (failed : (c.conduct w op).1.2.isFailure = true) :
    Spared op.loginPrompt? (c.LacksLogin (c.conduct w op).2) c (c.conduct w op).1.1 := by
  have hc := c.conducts w op
  revert hc failed
  generalize (c.conduct w op).1 = ended
  generalize (c.conduct w op).2 = log
  intro failed hc
  cases hc with
  | atOnce h =>
    refine (spared_begin sound h failed).congr fun _ _ => ?_
    simp [LacksLogin]
  | @answered d e sent p r now a h hreply =>
    obtain ⟨rfl, hwait⟩ := awaits_of_isFailure h hreply failed
    rw [← hwait.loginPrompt?]
    refine (spared_resume sound hreply failed).congr fun m hm => ?_
    simp [LacksLogin, hwait.session hm]
  | twice => cases failed

/-- **What fails leaves the client as it was.** An operation runs alone, on a client that any deeds have
led to, with whatever replies. If it answers with a failure, the client after it is the client before it,
with the session, all that is stored, the favorites, the feed and the filter; but a toggle and a booking
raise their prompt once, so that it is the last of the prompts and nothing else has changed, if nobody is
logged in or the server has rejected the access token, and only then. -/
theorem failure_leaves_client {c : Client} (reachable : c.Reachable) (w : World) (op : Operation)
    (failed : (c.conduct w op).1.2.isFailure = true) :
    (∀ m, op.loginPrompt? = some m → c.LacksLogin (c.conduct w op).2 →
      (c.conduct w op).1.1 = { c with prompts := c.prompts ++ [m] }) ∧
    (op.loginPrompt? = none ∨ ¬ c.LacksLogin (c.conduct w op).2 → (c.conduct w op).1.1 = c) := by
  have hspared := spared_conduct reachable.sound failed
  exact ⟨hspared.prompted, hspared.unchanged⟩

/-- A server that rejects the token of every request. -/
def rejecting : World := ⟨fun _ _ => .answered ⟨unauthorized, none, .whole []⟩, fun _ => 0⟩

/-- A user toggles a beach and the server rejects the token: the prompt is all that is left of it. -/
theorem failure_leaves_client_rejected :
    Traffic.ofUser.client.Reachable ∧
    (Traffic.ofUser.client.conduct rejecting (.toggle "1")).1.2.isFailure = true ∧
    (Traffic.ofUser.client.conduct rejecting (.toggle "1")).1.1 =
      { Traffic.ofUser.client with prompts := [ToggleFault.loginPrompt] } := by
  have reachable : Traffic.ofUser.client.Reachable :=
    ⟨Traffic.sampleSettings, _, [], congrArg Traffic.client Traffic.opened_sampleStore.symm⟩
  have failed : (Traffic.ofUser.client.conduct rejecting (.toggle "1")).1.2.isFailure = true := by
    decide +kernel
  have hrejected : ∃ x ∈ (Traffic.ofUser.client.conduct rejecting (.toggle "1")).2,
      x.2.Unauthorized := by
    decide +kernel
  obtain ⟨prompted, _⟩ := failure_leaves_client reachable rejecting (.toggle "1") failed
  exact ⟨reachable, failed, prompted _ rfl (.inr hrejected)⟩

end Client

end Shoreline
