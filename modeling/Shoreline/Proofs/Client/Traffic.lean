import Shoreline.Proofs.Client.Effects

/-!
# `Shoreline.Proofs.Client.Traffic` — many operations at once

While one operation waits for its reply, others may begin and other replies may come, in any order.
A `Traffic` holds the client and the operations that wait. An operation that waits also remembers the
session that was held when it asked: its reply is about that session's user, whoever is logged in by
the time it comes.

## Contents
- `Waiting`, `Traffic`, `Traffic.Event`, `Traffic.after`, `Traffic.run`.
- `Traffic.Along`: something holds at each event of a run; `run_induction`, `along_of_forall`,
  `along_congr`.
- `Traffic.Completes`, `Traffic.LogsIn`, `Traffic.Renews`.
- What an event does: `client_begin`, `client_reply`, `after_reply`, `after_reply_missing`,
  `mem_waiting_after`, `fault_after`, `settings_after`.
- `Traffic.ofUser`, `Traffic.granted`: a client and replies for runs on fixed inputs.
-/

namespace Shoreline

open Text Http

/-- An operation that waits for the reply to a request. -/
structure Waiting where
  pending : Pending
  /-- The session that was held when the request was sent. -/
  under : Option Session

/-- A client in use. -/
structure Traffic where
  client : Client
  /-- The operations that wait, in the order in which they asked. -/
  waiting : List Waiting := []

namespace Traffic

/-- What can happen to a client in use. -/
inductive Event
  | begin (op : Operation)
  /-- The reply to one of the operations that wait, at a time in milliseconds. -/
  | reply (i : Nat) (r : Reply) (now : Int)

/-- A client that is used for the first time. -/
def opened (settings : Settings) (store : Store) : Traffic := { client := .opened settings store }

/-- Take note of where an operation has got to. -/
def settled (waiting : List Waiting) (reached : Client × Step) : Traffic :=
  match reached.2 with
  | .done _ => ⟨reached.1, waiting⟩
  | .ask _ p => ⟨reached.1, waiting ++ [⟨p, reached.1.session⟩]⟩

/-- The traffic after an event. A reply to nobody changes nothing. -/
def after (t : Traffic) : Event → Traffic
  | .begin op => settled t.waiting (t.client.begin op)
  | .reply i r now =>
    match t.waiting[i]? with
    | some w => settled (t.waiting.eraseIdx i) (t.client.resume w.pending r now)
    | none => t

/-- The traffic after some events. -/
def run (t : Traffic) (es : List Event) : Traffic := es.foldl after t

/-- Something holds of each event of a run, in the state that it finds. -/
def Along (P : Traffic → Event → Prop) : Traffic → List Event → Prop
  | _, [] => True
  | t, e :: es => P t e ∧ Along P (t.after e) es

/-! ## What an event does -/

theorem run_cons (t : Traffic) (e : Event) (es : List Event) :
    t.run (e :: es) = (t.after e).run es := rfl

theorem run_append (t : Traffic) (es later : List Event) :
    t.run (es ++ later) = (t.run es).run later := List.foldl_append

/-- A run keeps what each of its events keeps. -/
theorem run_induction {P : Traffic → Event → Prop} {Q : Traffic → Prop}
    (step : ∀ t e, Q t → P t e → Q (t.after e)) {t : Traffic} {es : List Event} (h : Q t)
    (along : Along P t es) : Q (t.run es) := by
  induction es generalizing t with
  | nil => exact h
  | cons e es ih =>
    obtain ⟨here, later⟩ := along
    rw [run_cons]
    exact ih (step t e h here) later

/-- What holds of every event holds along every run. -/
theorem along_of_forall {P : Traffic → Event → Prop} (h : ∀ t e, P t e) (t : Traffic)
    (es : List Event) : Along P t es := by
  induction es generalizing t with
  | nil => trivial
  | cons e es ih => exact ⟨h t e, ih (t.after e)⟩

/-- What holds of the same events holds along the same runs. -/
theorem along_congr {P Q : Traffic → Event → Prop} (h : ∀ t e, P t e ↔ Q t e) (t : Traffic)
    (es : List Event) : Along P t es ↔ Along Q t es := by
  induction es generalizing t with
  | nil => exact Iff.rfl
  | cons e es ih =>
    unfold Along
    rw [h t e, ih (t.after e)]

theorem settled_client (waiting : List Waiting) (reached : Client × Step) :
    (settled waiting reached).client = reached.1 := by
  unfold settled
  split <;> rfl

/-- An operation that begins to wait does so under the session that is held then. -/
theorem mem_settled {waiting : List Waiting} {reached : Client × Step} {w : Waiting}
    (h : w ∈ (settled waiting reached).waiting) :
    w ∈ waiting ∨ w.under = (settled waiting reached).client.session := by
  rw [settled_client]
  unfold settled at h
  split at h
  · exact Or.inl h
  · rcases List.mem_append.mp h with hold | hnew
    · exact Or.inl hold
    · right
      rw [List.mem_singleton.mp hnew]

/-- What waits after an event waited before it, or asked under the session that is held now. -/
theorem mem_waiting_after {t : Traffic} {e : Event} {w : Waiting} (h : w ∈ (t.after e).waiting) :
    w ∈ t.waiting ∨ w.under = (t.after e).client.session := by
  cases e with
  | begin op => exact mem_settled h
  | reply i r now =>
    cases hi : t.waiting[i]? with
    | none =>
      have hsame : t.after (.reply i r now) = t := by simp only [after, hi]
      rw [hsame] at h
      exact Or.inl h
    | some v =>
      have hsettled : t.after (.reply i r now) =
          settled (t.waiting.eraseIdx i) (t.client.resume v.pending r now) := by
        simp only [after, hi]
      rw [hsettled] at h ⊢
      rcases mem_settled h with hold | hnew
      · exact Or.inl (List.mem_of_mem_eraseIdx hold)
      · exact Or.inr hnew

theorem client_begin (t : Traffic) (op : Operation) :
    (t.after (.begin op)).client = (t.client.begin op).1 :=
  settled_client _ _

theorem client_reply {t : Traffic} {i : Nat} {w : Waiting} (h : t.waiting[i]? = some w) (r : Reply)
    (now : Int) : (t.after (.reply i r now)).client = (t.client.resume w.pending r now).1 := by
  simp only [after, h]
  exact settled_client _ _

/-- What waits still waits after another operation has got somewhere. -/
theorem mem_settled_of_mem {waiting : List Waiting} {w : Waiting} (h : w ∈ waiting)
    (reached : Client × Step) : w ∈ (settled waiting reached).waiting := by
  unfold settled
  split
  · exact h
  · exact List.mem_append_left _ h

theorem after_reply {t : Traffic} {i : Nat} {w : Waiting} (h : t.waiting[i]? = some w) (r : Reply)
    (now : Int) : t.after (.reply i r now) =
      settled (t.waiting.eraseIdx i) (t.client.resume w.pending r now) := by
  simp only [after, h]

/-- Whether writes fail is not a matter of what happens to the client. -/
theorem fault_after (t : Traffic) (e : Event) :
    (t.after e).client.store.fault = t.client.store.fault := by
  cases e with
  | begin op =>
    rw [client_begin]
    exact t.client.fault_begin op
  | reply i r now =>
    cases hw : t.waiting[i]? with
    | none => simp only [after, hw]
    | some w =>
      rw [client_reply hw]
      exact (t.client.changedAt_resume w.pending r now).fault

theorem fault_run (t : Traffic) (es : List Event) :
    (t.run es).client.store.fault = t.client.store.fault := by
  induction es generalizing t with
  | nil => rfl
  | cons e es ih => exact (ih (t.after e)).trans (fault_after t e)

/-- The settings are read once, before anything happens. -/
theorem settings_after (t : Traffic) (e : Event) :
    (t.after e).client.settings = t.client.settings := by
  cases e with
  | begin op =>
    rw [client_begin]
    exact t.client.settings_begin op
  | reply i r now =>
    cases hw : t.waiting[i]? with
    | none => simp only [after, hw]
    | some w =>
      rw [client_reply hw]
      exact t.client.settings_resume w.pending r now

theorem after_reply_missing {t : Traffic} {i : Nat} (h : t.waiting[i]? = none) (r : Reply)
    (now : Int) : t.after (.reply i r now) = t := by
  simp only [after, h]

/-! ## Completion -/

/-- The event is the reply to an operation that waits as `p`, and the reply holds what it should. -/
def Completes (t : Traffic) (p : Pending) : Event → Prop
  | .begin _ => False
  | .reply i r _ =>
    ∃ w payload, t.waiting[i]? = some w ∧ w.pending = p ∧ p.read r = .ok payload

/-- A log-in completes. -/
def LogsIn (t : Traffic) (e : Event) : Prop := t.Completes .logIn e

/-- A renewal of some session completes. -/
def Renews (t : Traffic) (e : Event) : Prop := ∃ s, t.Completes (.refreshSession s) e

/-! ## A user who is logged in -/

/-- The session of a user who logged in at the beginning of 1970. -/
def sampleSession : Session where
  accessToken := "a"
  refreshToken := "r"
  tokenType := "Bearer"
  expiresIn := 3600
  user := ⟨"u", "", "", "", "", none⟩
  issuedAt := 0

/-- Settings with guest favorites allowed. -/
def sampleSettings : Settings := ⟨"http://localhost", "store.json", 50, 30, Time.Offset.utc, true⟩

/-- A store in memory that keeps this session. -/
def sampleStore : Store :=
  .inMemory (SortedMap.empty.insert Key.session sampleSession.toValue.compact)

/-- The client of this user. -/
def ofUser : Traffic where
  client := { settings := sampleSettings, store := sampleStore, session := some sampleSession }

/-- The client of this user is what opening one on their store gives. -/
theorem opened_sampleStore : opened sampleSettings sampleStore = ofUser := by
  have hsession : sampleStore.loadSession = some sampleSession := by decide +kernel
  unfold opened Client.opened ofUser
  rw [hsession]

/-- The server answers with a value. -/
def granted (v : Json.Value) : Reply := .answered ⟨200, some jsonType, .whole (encode v.compact)⟩

end Traffic

end Shoreline
