import Shoreline.Proofs.Client.Conduct
import Shoreline.Proofs.Client.Traffic
import Shoreline.Proofs.Http.Reply
import Shoreline.Proofs.Store.Stamp

/-!
# `Shoreline.Proofs.Client.Cooldown` — how often a mail is asked for

A mail is asked for at most once in three minutes for each address, also across restarts. A wait begins
when the server has sent the mail and when it refuses because it has sent one recently; a request that
fails in another way may be made again at once. All that counts is kept in the store, one stamp for each
address. So what a call does to the stamps is said once (`resendStamp?_mailed`), and the rest is about the
last call in a row that began a wait (`lastStart?`).

## Contents
- `Reply.startsWait` with `startsWait_of_acknowledged`, `startsWait_of_error`; `Client.resume_resend`;
  `conduct_resend_waiting`, `conduct_resend_unsent`, `conduct_resend_sent` and their summary
  `conduct_resend_cases`.
- `Mailing`, `Client.mailed`, `Client.mailedAll`; `startedAt?`, `lastStart?`.
- `resendStamp?_mailed`, `resendStamp?_mailedAll`, `stamped_since`; `cooldown_pos_of_startsWait`,
  `cooldown_mailed`.
- `mails_are_apart`, with two mails to one address.
-/

namespace Shoreline

open Text Json Http

/-- A wait begins with an answer whose status is one from 200 to 299: the mail was sent. It also begins with one
of the status 400 if the message of the refusal names a mail that was sent recently. -/
def Http.Reply.startsWait : Reply → Bool
  | .answered r => (200 ≤ r.status && r.status ≤ 299) ||
      (r.status == 400 && contains r.refusal.message "최근에 발송되었습니다")
  | .failed _ => false

namespace Http.Reply

theorem startsWait_of_acknowledged {r : Reply} (h : r.acknowledged = .ok ()) : r.startsWait = true := by
  have success := acknowledged_eq_ok_iff.mp h
  cases r with
  | failed fault => exact success.elim
  | answered r =>
    have hstatus : isSuccess r.status = true := (isSuccess_iff r.status).mpr success
    exact Bool.or_eq_true_iff.mpr (.inl hstatus)

/-- A failure begins a wait exactly if it is the refusal to send again so soon. -/
theorem startsWait_of_error {r : Reply} {e : Failure} (h : r.acknowledged = .error e) :
    r.startsWait = match e with
      | .refused refusal => namesRecentSend refusal
      | _ => false := by
  cases r with
  | failed fault =>
    cases h
    rfl
  | answered r =>
    rcases of_bind_eq_error h with haccepted | ⟨r', -, hok⟩
    · unfold accepted at haccepted
      dsimp only at haccepted
      split at haccepted
      · cases haccepted
      · next refused =>
        cases haccepted
        have hstatus : (decide (200 ≤ r.status) && decide (r.status ≤ 299)) = false :=
          Bool.eq_false_iff.mpr refused
        unfold startsWait
        dsimp only
        rw [hstatus, ← r.refusal_status]
        rfl
    · cases hok

end Http.Reply

/-- A wait began with what came back. -/
def Log.startsWait (log : Log) : Bool := log.any fun exchanged => exchanged.2.startsWait

namespace Client

/-! ## One call -/

/-- The client once a reply has come: it has noted the mail if a wait has begun. -/
def noted (c : Client) (address : String) (now : Int) (r : Reply) : Client :=
  if r.startsWait then { c with store := c.store.stampResend address now } else c

theorem resume_resend (c : Client) (address : String) (now : Int) (r : Reply) (clock : Int) :
    ∃ a, c.resume (.resend address now) r clock = (c.noted address now r, .done a) := by
  unfold noted
  cases hread : r.acknowledged with
  | ok u =>
    rw [Reply.startsWait_of_acknowledged hread]
    exact ⟨_, resume_of_ok (p := .resend address now) hread clock⟩
  | error e =>
    rw [Reply.startsWait_of_error hread, resume_of_error (p := .resend address now) hread clock]
    show ∃ a, (c.failResend address now e).step = _
    unfold failResend
    cases e with
    | refused refusal =>
      dsimp only
      split
      · exact ⟨_, rfl⟩
      · exact ⟨_, rfl⟩
    | _ => exact ⟨_, rfl⟩

section Conduct

variable {c : Client} {email : String} {now : Int}

/-- While one has to wait nothing is sent and nothing changes. -/
theorem conduct_resend_waiting (h : 0 < c.store.cooldown (trim email) now) (w : World) :
    c.conduct w (.resend email now) =
      ((c, .resent (.error (.coolingDown (c.store.cooldown (trim email) now)))), []) := by
  refine conduct_done ?_ w
  show c.beginResend email now = _
  unfold beginResend
  dsimp only
  rw [if_pos h]
  rfl

theorem begin_resend (h : ¬ 0 < c.store.cooldown (trim email) now) :
    c.begin (.resend email now) =
      c.issue (Api.resendVerification c.base (trim email)) (.resend (trim email) now) := by
  show c.beginResend email now = _
  unfold beginResend
  dsimp only
  rw [if_neg h]

/-- A request that cannot be sent changes nothing. -/
theorem conduct_resend_unsent (h : ¬ 0 < c.store.cooldown (trim email) now) {fault : TransportFault}
    (hsend : (Api.resendVerification c.base (trim email)).send? = .error fault) (w : World) :
    c.conduct w (.resend email now) =
      ((c, .resent (.error (.failed (.transport fault.message)))), []) :=
  conduct_unsent (begin_resend h) hsend w

/-- A request that is sent is noted if its reply begins a wait. -/
theorem conduct_resend_sent (h : ¬ 0 < c.store.cooldown (trim email) now) {sent : Sent}
    (hsend : (Api.resendVerification c.base (trim email)).send? = .ok sent) (w : World) :
    ∃ a, c.conduct w (.resend email now) =
      ((c.noted (trim email) now (w.reply [] sent), a), [(sent, w.reply [] sent)]) := by
  have hbegin : c.begin (.resend email now) = (c, .ask sent (.resend (trim email) now)) :=
    (begin_resend h).trans (c.issue_of_sent _ hsend)
  obtain ⟨a, hreply⟩ := c.resume_resend (trim email) now (w.reply [] sent)
    (w.clock [(sent, w.reply [] sent)])
  exact ⟨a, conduct_answered hbegin w hreply⟩

/-- **What a call does**: it sends nothing and changes nothing, or one may send and the reply tells. -/
theorem conduct_resend_cases (c : Client) (email : String) (now : Int) (w : World) :
    (∃ a, c.conduct w (.resend email now) = ((c, a), [])) ∨
    ¬ 0 < c.store.cooldown (trim email) now ∧ ∃ sent r a,
      c.conduct w (.resend email now) = ((c.noted (trim email) now r, a), [(sent, r)]) := by
  by_cases hwait : 0 < c.store.cooldown (trim email) now
  · exact .inl ⟨_, conduct_resend_waiting hwait w⟩
  · cases hsend : (Api.resendVerification c.base (trim email)).send? with
    | error fault => exact .inl ⟨_, conduct_resend_unsent hwait hsend w⟩
    | ok sent =>
      obtain ⟨a, hsent⟩ := conduct_resend_sent hwait hsend w
      exact .inr ⟨hwait, sent, _, a, hsent⟩

end Conduct

/-! ## Many calls -/

/-- What happens to a client that is used for mails. -/
inductive Mailing
  /-- A mail is asked for at a time in milliseconds, while nothing else runs. -/
  | resend (email : String) (now : Int) (w : World)
  /-- The application is started again on the same store. -/
  | restart (settings : Settings)

/-- The time of a call. -/
def Mailing.time? : Mailing → Option Int
  | resend _ now _ => some now
  | restart _ => none

/-- The client afterwards. -/
def mailed (c : Client) : Mailing → Client
  | .resend email now w => (c.conduct w (.resend email now)).1.1
  | .restart settings => opened settings c.store

/-- The client after all of it, in order. -/
def mailedAll (c : Client) (ms : List Mailing) : Client := ms.foldl mailed c

/-- The time at which a wait for an address begins with a call. -/
def startedAt? (address : String) (c : Client) : Mailing → Option Int
  | .resend email now w =>
    if trim email = address ∧ (c.conduct w (.resend email now)).2.startsWait = true then some now
    else none
  | .restart _ => none

/-- The time at which a wait for an address last began. -/
def lastStart? (address : String) : Client → List Mailing → Option Int
  | _, [] => none
  | c, m :: ms => (lastStart? address (c.mailed m) ms).or (startedAt? address c m)

theorem startedAt?_resend (address : String) (c : Client) (email : String) (now : Int) (w : World) :
    startedAt? address c (.resend email now w) =
      if trim email = address ∧ (c.conduct w (.resend email now)).2.startsWait = true then some now
      else none := rfl

/-- A wait begins at the time of the call. -/
theorem mem_time?_of_startedAt? {address : String} {c : Client} {m : Mailing} {u : Int}
    (h : startedAt? address c m = some u) : u ∈ m.time? := by
  cases m with
  | restart settings => cases h
  | resend email now w =>
    rw [startedAt?_resend] at h
    split at h
    · exact h
    · cases h

/-- Whether writes fail is not a matter of mails. -/
theorem fault_mailed (c : Client) (m : Mailing) : (c.mailed m).store.fault = c.store.fault := by
  cases m with
  | restart settings => rfl
  | resend email now w =>
    show (c.conduct w (.resend email now)).1.1.store.fault = _
    rcases c.conduct_resend_cases email now w with ⟨a, hsame⟩ | ⟨-, sent, r, a, hsent⟩
    · rw [hsame]
    · rw [hsent]
      dsimp only
      unfold noted
      split
      · exact (c.store.changedAt_stampResend (trim email) now).fault
      · rfl

/-- **A call changes a stamp only if it is for that address and begins a wait**; then the stamp is the
time of the call. -/
theorem resendStamp?_mailed {c : Client} (sound : c.store.fault = none) {m : Mailing}
    (h : ∀ now ∈ m.time?, IsInt64 now) (address : String) :
    (c.mailed m).store.resendStamp? address =
      (startedAt? address c m).or (c.store.resendStamp? address) := by
  cases m with
  | restart settings => rfl
  | resend email now w =>
    show (c.conduct w (.resend email now)).1.1.store.resendStamp? address = _
    rw [startedAt?_resend]
    rcases c.conduct_resend_cases email now w with ⟨a, hsame⟩ | ⟨-, sent, r, a, hsent⟩
    · rw [hsame, if_neg]
      · rfl
      · rintro ⟨-, hstarts⟩
        cases hstarts
    · have hlog : Log.startsWait [(sent, r)] = r.startsWait := by
        unfold Log.startsWait
        rw [List.any_cons, List.any_nil, Bool.or_false]
      rw [hsent, hlog]
      unfold noted
      by_cases hstarts : r.startsWait = true
      · rw [if_pos hstarts]
        dsimp only
        rw [Store.resendStamp?_stampResend sound (h now rfl)]
        by_cases heq : trim email = address
        · rw [if_pos heq, if_pos ⟨heq, hstarts⟩]
          rfl
        · rw [if_neg heq, if_neg fun hboth => heq hboth.1]
          rfl
      · rw [if_neg hstarts, if_neg fun hboth => hstarts hboth.2]
        rfl

/-- **The stamp of an address is the time of the last call that began a wait**, or what it was at
first. -/
theorem resendStamp?_mailedAll {c : Client} (sound : c.store.fault = none) {ms : List Mailing}
    (h : ∀ m ∈ ms, ∀ now ∈ m.time?, IsInt64 now) (address : String) :
    (c.mailedAll ms).store.resendStamp? address =
      (lastStart? address c ms).or (c.store.resendStamp? address) := by
  induction ms generalizing c with
  | nil => rfl
  | cons m ms ih =>
    have hlater := ih ((fault_mailed c m).trans sound) fun m' hm' => h m' (List.mem_cons_of_mem m hm')
    show ((c.mailed m).mailedAll ms).store.resendStamp? address = _
    rw [hlater, resendStamp?_mailed sound (h m List.mem_cons_self), lastStart?, Option.or_assoc]

theorem fault_mailedAll (c : Client) (ms : List Mailing) :
    (c.mailedAll ms).store.fault = c.store.fault := by
  induction ms generalizing c with
  | nil => rfl
  | cons m ms ih => exact (ih (c.mailed m)).trans (fault_mailed c m)

/-- A wait begins at the time of one of the calls. -/
theorem le_lastStart? {address : String} {t u : Int} {c : Client} {ms : List Mailing}
    (since : ∀ m ∈ ms, ∀ now ∈ m.time?, t ≤ now) (h : lastStart? address c ms = some u) : t ≤ u := by
  induction ms generalizing c with
  | nil => cases h
  | cons m ms ih =>
    rw [lastStart?, Option.or_eq_some_iff] at h
    rcases h with hlater | ⟨-, hhere⟩
    · exact ih (fun m' hm' => since m' (List.mem_cons_of_mem m hm')) hlater
    · exact since m List.mem_cons_self u (mem_time?_of_startedAt? hhere)

/-- **After a wait has begun the stamp is never older than that**, whatever is called at later times. -/
theorem stamped_since {c : Client} (sound : c.store.fault = none) {address : String} {t : Int}
    (h : c.store.resendStamp? address = some t) {ms : List Mailing}
    (times : ∀ m ∈ ms, ∀ now ∈ m.time?, IsInt64 now) (since : ∀ m ∈ ms, ∀ now ∈ m.time?, t ≤ now) :
    ∃ u, t ≤ u ∧ (c.mailedAll ms).store.resendStamp? address = some u := by
  rw [resendStamp?_mailedAll sound times, h]
  cases hlast : lastStart? address c ms with
  | none => exact ⟨t, Int.le_refl t, rfl⟩
  | some u => exact ⟨u, le_lastStart? since hlast, rfl⟩

/-! ## Waits -/

/-- **Once a wait has begun it goes on for three minutes**, whatever is called in the meantime. -/
theorem cooldown_pos_of_startsWait {c : Client} (sound : c.store.fault = none) {email : String}
    {t t' : Int} {w : World} {between : List Mailing} (time : IsInt64 t)
    (starts : (c.conduct w (.resend email t)).2.startsWait = true)
    (times : ∀ m ∈ between, ∀ now ∈ m.time?, IsInt64 now)
    (since : ∀ m ∈ between, ∀ now ∈ m.time?, t ≤ now) (early : t' < t + 180000) :
    0 < ((c.mailed (.resend email t w)).mailedAll between).store.cooldown (trim email) t' := by
  have hstamp : (c.mailed (.resend email t w)).store.resendStamp? (trim email) = some t := by
    rw [resendStamp?_mailed sound, startedAt?_resend, if_pos ⟨rfl, starts⟩]
    · rfl
    · rintro now ⟨⟩
      exact time
  obtain ⟨u, hu, hlast⟩ := stamped_since ((fault_mailed c _).trans sound) hstamp times since
  rw [Store.cooldown_pos_iff hlast]
  omega

/-- A call for another address, or one with which no wait begins, leaves the wait as it is. -/
theorem cooldown_mailed {c : Client} (sound : c.store.fault = none) {email address : String}
    {now : Int} {w : World} (time : IsInt64 now)
    (h : trim email ≠ address ∨ (c.conduct w (.resend email now)).2.startsWait = false)
    (later : Int) :
    (c.mailed (.resend email now w)).store.cooldown address later =
      c.store.cooldown address later := by
  refine Store.cooldown_congr ?_ later
  rw [resendStamp?_mailed sound, startedAt?_resend, if_neg]
  · rfl
  · rintro ⟨heq, hstarts⟩
    rcases h with hne | hnone
    · exact hne heq
    · rw [hnone] at hstarts
      cases hstarts
  · rintro now ⟨⟩
    exact time

/-- The calls come at times of 64 bits, none before the last. -/
structure Clocked (ms : List Mailing) : Prop where
  times : ∀ m ∈ ms, ∀ now ∈ m.time?, IsInt64 now
  rising : (ms.filterMap Mailing.time?).Pairwise (· ≤ ·)

section Clocked

variable {before after : List Mailing} {email : String} {t : Int} {w : World}

theorem Clocked.time (h : Clocked (before ++ .resend email t w :: after)) : IsInt64 t :=
  h.times (.resend email t w) (List.mem_append_right before List.mem_cons_self) t rfl

/-- Calls that follow one are not before it. -/
theorem Clocked.since (h : Clocked (before ++ .resend email t w :: after)) :
    ∀ m ∈ after, ∀ now ∈ m.time?, t ≤ now := by
  have hrising := h.rising
  rw [List.filterMap_append, List.filterMap_cons] at hrising
  have hfirst := (List.pairwise_cons.mp (List.pairwise_append.mp hrising).2.1).1
  intro m hm now hnow
  exact hfirst now (List.mem_filterMap.mpr ⟨m, hm, hnow⟩)

end Clocked

/-- **Mails to one address are three minutes apart.** A client is opened on any store in memory, and mails
are asked for and the application is started again in any order, at times that never go back; the server
answers as it likes. When a wait has begun with a call, then a later call for the same address is told to
wait for some seconds more, sends nothing and changes nothing, unless three minutes have passed; so if it
sends something then at least so much later. A call for another address, or one with which no wait begins,
does not change how long one has to wait. -/
theorem mails_are_apart (settings : Settings) (entries : SortedMap String) :
    (∀ before between email again t t' w w',
      Clocked (before ++ .resend email t w :: (between ++ [.resend again t' w'])) →
      trim again = trim email →
      (((opened settings (.inMemory entries)).mailedAll before).conduct w
        (.resend email t)).2.startsWait = true →
      ∀ c, c = (opened settings (.inMemory entries)).mailedAll
          (before ++ .resend email t w :: between) →
        (t' < t + 180000 → ∃ seconds, 0 < seconds ∧ c.conduct w' (.resend again t') =
          ((c, .resent (.error (.coolingDown seconds))), [])) ∧
        ((c.conduct w' (.resend again t')).2 ≠ [] → t + 180000 ≤ t')) ∧
    ∀ before email now w address, Clocked (before ++ [.resend email now w]) →
      ∀ c, c = (opened settings (.inMemory entries)).mailedAll before →
        (trim email ≠ address ∨ (c.conduct w (.resend email now)).2.startsWait = false) →
        ∀ later, (c.mailed (.resend email now w)).store.cooldown address later =
          c.store.cooldown address later := by
  constructor
  · intro before between email again t t' w w' hclocked hsame hstarts c hc
    have hmeantime : ∀ m ∈ between, m ∈ between ++ [.resend again t' w'] :=
      fun m hm => List.mem_append_left _ hm
    have hrun : c = (((opened settings (.inMemory entries)).mailedAll before).mailed
        (.resend email t w)).mailedAll between := hc.trans List.foldl_append
    have hwait : t' < t + 180000 → 0 < c.store.cooldown (trim again) t' := by
      intro hearly
      rw [hrun, hsame]
      exact cooldown_pos_of_startsWait (fault_mailedAll _ before) hclocked.time hstarts
        (fun m hm => hclocked.times m
          (List.mem_append_right before (List.mem_cons_of_mem _ (hmeantime m hm))))
        (fun m hm => hclocked.since m (hmeantime m hm)) hearly
    constructor
    · intro hearly
      exact ⟨_, hwait hearly, conduct_resend_waiting (hwait hearly) w'⟩
    · intro hsent
      by_contra hlate
      rw [conduct_resend_waiting (hwait (Int.not_le.mp hlate)) w'] at hsent
      exact hsent rfl
  · rintro before email now w address hclocked c rfl hother later
    exact cooldown_mailed (fault_mailedAll _ before) hclocked.time hother later

/-- A server that sends every mail. -/
def willing : World := ⟨fun _ _ => Traffic.granted .null, fun _ => 0⟩

/-- A client on an empty store. -/
def mailer : Client := opened Traffic.sampleSettings (.inMemory SortedMap.empty)

/-- A mail is sent, then one to somebody else, and the application is started again. -/
def mailedTwice : List Mailing :=
  [.resend " sea@example.com" 1000 willing, .resend "sky@example.com" 2000 willing,
    .restart Traffic.sampleSettings]

theorem clocked_mailedTwice {t : Int} (low : 2000 ≤ t) (high : t < 1000000) :
    Clocked (mailedTwice ++ [.resend "sea@example.com" t willing]) where
  times := by
    simp [mailedTwice, Mailing.time?, IsInt64]
    omega
  rising := by
    show [1000, 2000, t].Pairwise (· ≤ ·)
    simp
    omega

/-- Just before three minutes have passed nothing is sent to the first address, and then a mail is; the
mail to somebody else has changed nothing about it. -/
theorem mails_are_apart_twice :
    Clocked (mailedTwice ++ [.resend "sea@example.com" 180999 willing]) ∧
    (mailer.conduct willing (.resend " sea@example.com" 1000)).2.startsWait = true ∧
    (∃ seconds, 0 < seconds ∧
      (mailer.mailedAll mailedTwice).conduct willing (.resend "sea@example.com" 180999) =
        ((mailer.mailedAll mailedTwice, .resent (.error (.coolingDown seconds))), [])) ∧
    ((mailer.mailedAll mailedTwice).conduct willing (.resend "sea@example.com" 181000)).2 ≠ [] ∧
    (1000 : Int) + 180000 ≤ 181000 ∧
    (((mailer.mailedAll (mailedTwice.take 1)).mailed
      (.resend "sky@example.com" 2000 willing)).store.cooldown "sea@example.com" 2000 =
        (mailer.mailedAll (mailedTwice.take 1)).store.cooldown "sea@example.com" 2000) := by
  have hstarts : (mailer.conduct willing (.resend " sea@example.com" 1000)).2.startsWait = true := by
    decide +kernel
  have hsent : ((mailer.mailedAll mailedTwice).conduct willing
      (.resend "sea@example.com" 181000)).2 ≠ [] := by
    refine List.ne_nil_of_length_pos ?_
    decide +kernel
  obtain ⟨apart, others⟩ := mails_are_apart Traffic.sampleSettings SortedMap.empty
  have htwice : ∀ t : Int, 2000 ≤ t → t < 1000000 → _ := fun t hlow hhigh =>
    apart [] [.resend "sky@example.com" 2000 willing, .restart Traffic.sampleSettings]
      " sea@example.com" "sea@example.com" 1000 t willing willing (clocked_mailedTwice hlow hhigh)
      (by decide) hstarts _ rfl
  refine ⟨clocked_mailedTwice (by decide) (by decide), hstarts, ?_, hsent, ?_, ?_⟩
  · exact (htwice 180999 (by decide) (by decide)).1 (by decide)
  · exact (htwice 181000 (by decide) (by decide)).2 hsent
  · refine others (mailedTwice.take 1) "sky@example.com" 2000 willing "sea@example.com" ⟨?_, ?_⟩ _ rfl
      (.inl (by decide)) 2000
    · simp [mailedTwice, Mailing.time?, IsInt64]
    · show [1000, 2000].Pairwise (· ≤ ·)
      simp

end Client

end Shoreline
