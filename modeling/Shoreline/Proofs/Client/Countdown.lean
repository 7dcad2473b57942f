import Shoreline.Proofs.Client.Cooldown

/-!
# `Shoreline.Proofs.Client.Countdown` — a wait is over when it is said to be

The seconds of a wait that are left are rounded up: after so many seconds the wait is over, and after fewer it
is not. From the stamp on they go down by one with each second until none is left (`cooldownAt_after`), and
the rest follows from that. A clock that was set back behind the stamp shows the whole wait.

## Contents
- `cooldownAt_nonneg`, `cooldownAt_le`, `cooldownAt_of_lt`, `cooldownAt_anti`; `cooldownAt_after`.
- `Store.exists_stamp_of_cooldown_pos`, `Store.cooldown_after`; `Store.wait_is_exact`, with a stamp in quotes.
- `Client.mailedAll_early`, `Client.resend_counts_down`: what a user is told who calls again and again.
-/

namespace Shoreline

open Text

/-! ## Seconds after a stamp -/

section Seconds

variable {sent now : Int}

theorem cooldownAt_nonneg (sent now : Int) : 0 ≤ cooldownAt sent now := by
  unfold cooldownAt
  exact Int.le_max_left _ _

theorem cooldownAt_le (sent now : Int) : cooldownAt sent now ≤ 180 := by
  unfold cooldownAt cooldownSeconds
  omega

/-- Before the stamp the whole wait is left. -/
theorem cooldownAt_of_lt (h : now < sent) : cooldownAt sent now = 180 := by
  unfold cooldownAt cooldownSeconds
  omega

/-- A wait never gets longer. -/
theorem cooldownAt_anti {later : Int} (h : now ≤ later) : cooldownAt sent later ≤ cooldownAt sent now := by
  have hmore : (now - sent) / 1000 ≤ (later - sent) / 1000 :=
    Int.ediv_le_ediv (by decide) (Int.sub_le_sub_right h sent)
  unfold cooldownAt cooldownSeconds
  omega

/-- One second later there is one second less, if there was one. -/
theorem cooldownAt_second (h : sent ≤ now) :
    cooldownAt sent (now + 1000) = max 0 (cooldownAt sent now - 1) := by
  have hwhole : (now + 1000 - sent) / 1000 = (now - sent) / 1000 + 1 := by omega
  unfold cooldownAt cooldownSeconds
  omega

/-- **The seconds go down one by one** from the stamp on. -/
theorem cooldownAt_after (h : sent ≤ now) (k : ℕ) :
    cooldownAt sent (now + k * 1000) = max 0 (cooldownAt sent now - k) := by
  induction k with
  | zero =>
    simp only [Int.natCast_zero, Int.zero_mul, Int.add_zero, Int.sub_zero]
    exact (Int.max_eq_right (cooldownAt_nonneg sent now)).symm
  | succ k ih =>
    have hnext : now + ((k + 1 : ℕ) : Int) * 1000 = now + k * 1000 + 1000 := by
      push_cast
      omega
    have hsince : sent ≤ now + k * 1000 := by omega
    rw [hnext, cooldownAt_second hsince, ih]
    omega

end Seconds

/-! ## The wait of an address -/

namespace Store

variable {s : Store} {address : String}

/-- There is no wait without a stamp. -/
theorem exists_stamp_of_cooldown_pos {now : Int} (h : 0 < s.cooldown address now) :
    ∃ sent, s.resendStamp? address = some sent := by
  unfold cooldown at h
  split at h
  · next sent hstamp => exact ⟨sent, hstamp⟩
  · exact absurd h (Int.lt_irrefl 0)

/-- The seconds that are left go down one by one. -/
theorem cooldown_after {sent now : Int} (h : s.resendStamp? address = some sent) (since : sent ≤ now)
    {k : Int} (hk : 0 ≤ k) :
    s.cooldown address (now + k * 1000) = max 0 (s.cooldown address now - k) := by
  obtain ⟨n, rfl⟩ := Int.eq_ofNat_of_zero_le hk
  rw [cooldown_of_stamp h, cooldown_of_stamp h]
  exact cooldownAt_after since n

/-- **A wait is over when it is said to be, and not a second earlier.** There is a stamp for an address and it
can be read. Then at no time since are more than three minutes left; after as many seconds as are left the wait
is over, and after fewer just those are left that have not passed. The seconds that are left never become more
as time goes on, and before the stamp, where a clock was set back, it is the whole three minutes. -/
theorem wait_is_exact {raw : String} {sent : Int} (kept : s.get? (Key.resend address) = some raw)
    (reads : readStamp raw = some sent) :
    (∀ now r, sent ≤ now → s.cooldown address now = r →
      0 ≤ r ∧ r ≤ 180 ∧ s.cooldown address (now + r * 1000) = 0 ∧
      ∀ k, 0 ≤ k → k < r →
        s.cooldown address (now + k * 1000) = r - k ∧ 0 < s.cooldown address (now + k * 1000)) ∧
    (∀ now later, now ≤ later → s.cooldown address later ≤ s.cooldown address now) ∧
    ∀ now, now < sent → s.cooldown address now = 180 := by
  have hstamp : s.resendStamp? address = some sent := by
    unfold resendStamp?
    rw [kept, Option.bind_some]
    exact reads
  have hleft := cooldown_of_stamp hstamp
  refine ⟨?_, ?_, ?_⟩
  · rintro now r hsince rfl
    have hlow : 0 ≤ s.cooldown address now := by
      rw [hleft]
      exact cooldownAt_nonneg sent now
    have hhigh : s.cooldown address now ≤ 180 := by
      rw [hleft]
      exact cooldownAt_le sent now
    refine ⟨hlow, hhigh, ?_, ?_⟩
    · rw [cooldown_after hstamp hsince hlow, Int.sub_self, Int.max_self]
    · intro k hk hless
      rw [cooldown_after hstamp hsince hk]
      omega
  · intro now later hle
    rw [hleft, hleft]
    exact cooldownAt_anti hle
  · intro now hbefore
    rw [hleft]
    exact cooldownAt_of_lt hbefore

/-- A store with a stamp that stands in quotes, as another program might have left it. -/
def stampedInQuotes : Store := .inMemory (.ofList [(Key.resend "sea@example.com", " \"1000\" ")])

/-- A millisecond after the first second is over, there are still 179 seconds left, which makes it a bit more
than three minutes in all; after 178 of them there is one. -/
theorem wait_is_exact_in_quotes :
    stampedInQuotes.get? (Key.resend "sea@example.com") = some " \"1000\" " ∧
    readStamp " \"1000\" " = some 1000 ∧
    stampedInQuotes.cooldown "sea@example.com" 2001 = 179 ∧
    stampedInQuotes.cooldown "sea@example.com" (2001 + 179 * 1000) = 0 ∧
    stampedInQuotes.cooldown "sea@example.com" (2001 + 178 * 1000) = 1 ∧
    stampedInQuotes.cooldown "sea@example.com" 999 = 180 := by
  have hkept : stampedInQuotes.get? (Key.resend "sea@example.com") = some " \"1000\" " := by decide
  have hreads : readStamp " \"1000\" " = some 1000 := by decide
  have hnow : stampedInQuotes.cooldown "sea@example.com" 2001 = 179 := by decide
  obtain ⟨since, -, before⟩ := wait_is_exact hkept hreads
  obtain ⟨-, -, hover, hleft⟩ := since 2001 179 (by decide) hnow
  exact ⟨hkept, hreads, hnow, hover, (hleft 178 (by decide) (by decide)).1, before 999 (by decide)⟩

end Store

/-! ## What the user is told -/

namespace Client

/-- A call for an address while one has to wait for it. -/
def Mailing.Early (c : Client) (m : Mailing) : Prop :=
  ∃ email now w, m = .resend email now w ∧ 0 < c.store.cooldown (trim email) now

/-- **Calls that come too early change nothing**, so the waits are what they were. -/
theorem mailedAll_early {c : Client} {ms : List Mailing} (h : ∀ m ∈ ms, m.Early c) :
    c.mailedAll ms = c := by
  induction ms with
  | nil => rfl
  | cons m ms ih =>
    obtain ⟨email, now, w, rfl, hwait⟩ := h m List.mem_cons_self
    have hsame : c.mailed (.resend email now w) = c := by
      show (c.conduct w (.resend email now)).1.1 = c
      rw [conduct_resend_waiting hwait w]
    show (c.mailed (.resend email now w)).mailedAll ms = c
    rw [hsame]
    exact ih fun m' hm' => h m' (List.mem_cons_of_mem _ hm')

/-- **Who calls again is told the seconds that are left.** A user is told to wait, by a clock that is not behind
the stamp. However often mails are asked for too early, a call after fewer seconds than that is told just the
ones that are left and sends nothing, and with a call after all of them the mail is asked for. -/
theorem resend_counts_down {c : Client} {email : String} {now seconds : Int}
    (left : c.store.cooldown (trim email) now = seconds) (waits : 0 < seconds)
    (since : ∀ sent ∈ c.store.resendStamp? (trim email), sent ≤ now) {ms : List Mailing}
    (early : ∀ m ∈ ms, m.Early c) :
    (∀ k w, 0 ≤ k → k < seconds → (c.mailedAll ms).conduct w (.resend email (now + k * 1000)) =
      ((c, .resent (.error (.coolingDown (seconds - k)))), [])) ∧
    (c.mailedAll ms).begin (.resend email (now + seconds * 1000)) =
      c.issue (Api.resendVerification c.base (trim email)) (.resend (trim email) (now + seconds * 1000)) := by
  subst left
  rw [mailedAll_early early]
  obtain ⟨sent, hstamp⟩ := Store.exists_stamp_of_cooldown_pos waits
  have hafter := fun k hk => Store.cooldown_after (k := k) hstamp (since sent hstamp) hk
  constructor
  · intro k w hk hless
    have hleft : c.store.cooldown (trim email) (now + k * 1000) = c.store.cooldown (trim email) now - k := by
      rw [hafter k hk]
      omega
    rw [conduct_resend_waiting (by omega) w, hleft]
  · refine begin_resend ?_
    rw [hafter _ (Int.le_of_lt waits)]
    omega

end Client

end Shoreline
