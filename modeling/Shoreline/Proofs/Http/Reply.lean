import Shoreline.Api

/-!
# `Shoreline.Proofs.Http.Reply` — what a reply comes to

A reply is read in two steps: an answer with a status of success is accepted, and what it holds is
decoded. So a value that was read stood in an accepted answer, and a failure to read says which step
failed. What a reply comes to can therefore be said of the answer alone, by its status and its body:
`Succeeded` and `Holds` do so for success, `Unauthorized` for a rejected access token.

## Contents
- `of_bind_eq_ok`, `of_bind_eq_error`, `of_elim_eq_ok`: a chain of steps that may fail; `exists_of_isOk`,
  `exists_of_toOption_map`: one that has not.
- `Reply.Succeeded` with `acknowledged_eq_ok_iff`; `Reply.Holds` with `decoded_eq_ok_iff`.
- `Reply.of_decoded`: what was decoded was read from a document.
- `Reply.Unauthorized`; `isUnauthorized_of_accepted`, `isUnauthorized_of_decoded`,
  `not_unauthorized_of_decoded`.
-/

namespace Shoreline

open Json Http

/-! ## Steps that may fail -/

/-- A chain of steps that succeeds has passed the first of them. -/
theorem of_bind_eq_ok {ε α β : Type} {x : Except ε α} {f : α → Except ε β} {b : β}
    (h : (x >>= f) = .ok b) : ∃ a, x = .ok a ∧ f a = .ok b := by
  cases x with
  | error e => cases h
  | ok a => exact ⟨a, rfl, h⟩

/-- A chain of steps fails at the first of them or after it. -/
theorem of_bind_eq_error {ε α β : Type} {x : Except ε α} {f : α → Except ε β} {e : ε}
    (h : (x >>= f) = .error e) : x = .error e ∨ ∃ a, x = .ok a ∧ f a = .error e := by
  cases x with
  | error e' =>
    cases h
    exact .inl rfl
  | ok a => exact .inr ⟨a, rfl, h⟩

/-- What is missing is an error, so nothing was. -/
theorem of_elim_eq_ok {ε α : Type} {o : Option α} {e : ε} {a : α}
    (h : o.elim (.error e) .ok = Except.ok a) : o = some a := by
  cases o with
  | none => cases h
  | some b => exact congrArg some (Except.ok.inj h)

theorem exists_of_isOk {ε α : Type} {x : Except ε α} (h : x.isOk = true) : ∃ a, x = .ok a := by
  cases x with
  | error e => cases h
  | ok a => exact ⟨a, rfl⟩

/-- Something that is known of a result if there is one is known of that result. -/
theorem exists_of_toOption_map {ε α β : Type} {x : Except ε α} {f : α → β} {b : β}
    (h : x.toOption.map f = some b) : ∃ a, x = .ok a ∧ f a = b := by
  cases x with
  | error e => cases h
  | ok a => exact ⟨a, rfl, Option.some.inj h⟩

namespace Http

/-- A refusal has the status of the answer. -/
theorem Response.refusal_status (r : Response) : r.refusal.status = r.status := by
  unfold Response.refusal Refusal.ofBody
  dsimp only
  split
  · split <;> rfl
  · split <;> rfl

namespace Reply

/-! ## Success -/

/-- The server has answered with a status from 200 to 299. -/
def Succeeded : Reply → Prop
  | answered r => 200 ≤ r.status ∧ r.status ≤ 299
  | failed _ => False

instance : DecidablePred Succeeded
  | answered r => inferInstanceAs (Decidable (200 ≤ r.status ∧ r.status ≤ 299))
  | failed _ => inferInstanceAs (Decidable False)

/-- The server has answered with a status from 200 to 299 and a body that is read as a value. -/
def Holds {α : Type} (d : Decoder α) (a : α) : Reply → Prop
  | answered r => (200 ≤ r.status ∧ r.status ≤ 299) ∧ r.decode? d = some a
  | failed _ => False

theorem isSuccess_iff (status : Nat) : isSuccess status = true ↔ 200 ≤ status ∧ status ≤ 299 := by
  unfold isSuccess
  rw [Bool.and_eq_true, decide_eq_true_eq, decide_eq_true_eq]

/-- An answer is accepted exactly if its status is one of success. -/
theorem accepted_eq_ok_iff {reply : Reply} {r : Response} :
    reply.accepted = .ok r ↔ reply = .answered r ∧ reply.Succeeded := by
  cases reply with
  | failed fault => exact ⟨nofun, nofun⟩
  | answered r' =>
    unfold accepted
    dsimp only
    split
    · next success =>
      rw [Except.ok.injEq, answered.injEq, iff_self_and]
      exact fun _ => (isSuccess_iff r'.status).mp success
    · next refused =>
      exact ⟨nofun, fun h => absurd ((isSuccess_iff r'.status).mpr h.2) refused⟩

/-- **A reply is acknowledged exactly if it is a success.** -/
theorem acknowledged_eq_ok_iff {reply : Reply} : reply.acknowledged = .ok () ↔ reply.Succeeded := by
  unfold acknowledged
  constructor
  · intro h
    obtain ⟨r, haccepted, -⟩ := of_bind_eq_ok h
    exact (accepted_eq_ok_iff.mp haccepted).2
  · intro h
    cases reply with
    | failed fault => exact h.elim
    | answered r =>
      rw [accepted_eq_ok_iff.mpr ⟨rfl, h⟩]
      rfl

/-- **A value is read from a reply exactly if the reply is a success and holds it.** -/
theorem decoded_eq_ok_iff {α : Type} {d : Decoder α} {reply : Reply} {a : α} :
    reply.decoded d = .ok a ↔ reply.Holds d a := by
  unfold decoded
  constructor
  · intro h
    obtain ⟨r, haccepted, hread⟩ := of_bind_eq_ok h
    obtain ⟨rfl, success⟩ := accepted_eq_ok_iff.mp haccepted
    split at hread
    · next b hdecoded =>
      obtain rfl := Except.ok.inj hread
      exact ⟨success, hdecoded⟩
    · cases hread
  · intro h
    cases reply with
    | failed fault => exact h.elim
    | answered r =>
      rw [accepted_eq_ok_iff.mpr ⟨rfl, h.1⟩]
      simp only [bind, Except.bind, h.2]

/-- What was decoded was read from a document. -/
theorem of_decoded {α : Type} {d : Decoder α} {reply : Reply} {a : α}
    (h : reply.decoded d = .ok a) : ∃ room doc, d room doc = some a := by
  cases reply with
  | failed fault => cases h
  | answered r =>
    obtain ⟨-, hdecoded⟩ := decoded_eq_ok_iff.mp h
    unfold Response.decode? at hdecoded
    split at hdecoded
    · obtain ⟨doc, -, hdoc⟩ := Option.bind_eq_some_iff.mp hdecoded
      exact ⟨_, doc, hdoc⟩
    · cases hdecoded

/-! ## Rejected tokens -/

/-- The server has answered that it rejects the access token. -/
def Unauthorized : Reply → Prop
  | answered r => r.status = unauthorized
  | failed _ => False

instance : DecidablePred Unauthorized
  | answered r => inferInstanceAs (Decidable (r.status = unauthorized))
  | failed _ => inferInstanceAs (Decidable False)

theorem isUnauthorized_of_accepted {reply : Reply} {e : Failure} (h : reply.accepted = .error e) :
    e.isUnauthorized = true ↔ reply.Unauthorized := by
  unfold accepted at h
  split at h
  · cases h
    exact ⟨nofun, nofun⟩
  · next r =>
    split at h
    · cases h
    · cases h
      have hstatus : (Failure.refused r.refusal).isUnauthorized = (r.status == unauthorized) := by
        rw [← r.refusal_status]
        rfl
      rw [hstatus, beq_iff_eq]
      rfl

/-- An answer that was accepted rejects no token. -/
theorem not_unauthorized_of_accepted {reply : Reply} {r : Response} (h : reply.accepted = .ok r) :
    ¬ reply.Unauthorized := by
  intro hrejected
  cases reply with
  | failed fault => exact hrejected
  | answered r' =>
    have hstatus : r'.status = unauthorized := hrejected
    dsimp only [accepted] at h
    rw [hstatus] at h
    cases h

/-- Nor does one that was decoded. -/
theorem not_unauthorized_of_decoded {α : Type} {d : Decoder α} {reply : Reply} {a : α}
    (h : reply.decoded d = .ok a) : ¬ reply.Unauthorized := by
  unfold decoded at h
  obtain ⟨r, haccepted, _⟩ := of_bind_eq_ok h
  exact not_unauthorized_of_accepted haccepted

/-- A value that could not be read was refused for want of a valid token exactly if the server says so. -/
theorem isUnauthorized_of_decoded {α : Type} {d : Decoder α} {reply : Reply} {e : Failure}
    (h : reply.decoded d = .error e) : e.isUnauthorized = true ↔ reply.Unauthorized := by
  unfold decoded at h
  rcases of_bind_eq_error h with hrefused | ⟨r, haccepted, hdecoded⟩
  · exact isUnauthorized_of_accepted hrefused
  · split at hdecoded
    · cases hdecoded
    · cases hdecoded
      exact ⟨nofun, fun hrejected => absurd hrejected (not_unauthorized_of_accepted haccepted)⟩

end Reply

end Http

end Shoreline
