import Shoreline.Store.Record
import Shoreline.Verification

/-!
# `Shoreline.Proofs.Store.Change` — what a change to the store leaves alone

Everything the client keeps stands under a key of its own, and each function writes under one key at
most. `Store.ChangedAt` says so for the functions that write.

## Contents
- `Store.ChangedAt` and its closure: `refl`, `trans`, `attempt`.
- One lemma for each function that writes.
- Keys are different: `Key.resend_ne`.
- `Store.save_ok`, `Store.get?_attempt_save`: what is saved is kept, unless writes fail.
-/

namespace Shoreline

namespace Store

/-- One store differs from another at most in the text under one key, or not at all. -/
structure ChangedAt (key : Option String) (s t : Store) : Prop where
  get? : ∀ k, key ≠ some k → t.get? k = s.get? k
  fault : t.fault = s.fault

namespace ChangedAt

theorem refl (key : Option String) (s : Store) : ChangedAt key s s := ⟨fun _ _ => rfl, rfl⟩

theorem trans {key : Option String} {s t u : Store} (h : ChangedAt key s t)
    (h' : ChangedAt key t u) : ChangedAt key s u where
  get? k hk := (h'.get? k hk).trans (h.get? k hk)
  fault := h'.fault.trans h.fault

/-- A change that may fail changes nothing if it does. -/
theorem attempt {key : Option String} {s : Store} {result : Except StoreFault Store}
    (h : ∀ t, result = .ok t → ChangedAt key s t) : ChangedAt key s (s.attempt result) := by
  cases result with
  | ok t => exact h t rfl
  | error fault => exact refl key s

end ChangedAt

theorem changedAt_set {s t : Store} {key text : String} (h : s.set key text = .ok t) :
    ChangedAt (some key) s t where
  get? k hk := by
    rw [get?_set h]
    exact if_neg fun he => hk (congrArg some he.symm)
  fault := (write_eq_ok h).2

theorem changedAt_remove {s t : Store} {key : String} (h : s.remove key = .ok t) :
    ChangedAt (some key) s t where
  get? k hk := by
    rw [get?_remove h]
    exact if_neg fun he => hk (congrArg some he.symm)
  fault := by
    unfold remove at h
    split at h
    · exact (write_eq_ok h).2
    · cases h
      rfl

theorem changedAt_saveSession {s t : Store} {session : Session}
    (h : s.saveSession session = .ok t) : ChangedAt (some Key.session) s t :=
  changedAt_set h

theorem changedAt_clearSession (s : Store) :
    ChangedAt (some Key.session) s (s.attempt s.clearSession) :=
  ChangedAt.attempt fun _ h => changedAt_remove h

theorem changedAt_saveFavorites (s : Store) (ids : List String) :
    ChangedAt (some Key.favorites) s (s.attempt (s.saveFavorites ids)) :=
  ChangedAt.attempt fun _ h => changedAt_set h

theorem changedAt_addVisit (s : Store) (v : Visit) :
    ChangedAt (some Key.visits) s (s.attempt (s.addVisit v)) :=
  ChangedAt.attempt fun _ h => changedAt_set h

theorem changedAt_removeVisit {s t : Store} {id : String} {found : Bool}
    (h : s.removeVisit id = .ok (t, found)) : ChangedAt (some Key.visits) s t := by
  unfold removeVisit at h
  dsimp only at h
  split at h
  · cases h
    exact ChangedAt.refl _ s
  · cases hsave : s.saveVisits (s.loadVisits.filter (·.id != id)) with
    | error fault =>
      rw [hsave] at h
      cases h
    | ok u =>
      rw [hsave] at h
      cases h
      exact changedAt_set hsave

theorem changedAt_stampResend (s : Store) (email : String) (now : Int) :
    ChangedAt (some (Key.resend email)) s (s.stampResend email now) :=
  ChangedAt.attempt fun _ h => changedAt_set h

/-! ## Writes and their keys -/

/-- A write succeeds unless writes fail. -/
theorem save_ok {s : Store} (sound : s.fault = none) (key : String) (v : Json.Value) :
    ∃ t, s.save key v = .ok t := by
  unfold save set write
  rw [sound]
  exact ⟨_, rfl⟩

/-- What is saved is kept, unless writes fail. -/
theorem get?_attempt_save (s : Store) (key : String) (v : Json.Value) :
    (s.attempt (s.save key v)).get? key =
      if s.fault = none then some v.compact else s.get? key := by
  unfold save set
  -- whether a write succeeds is a matter of the store alone
  cases hw : s.write (s.entries.insert key v.compact) with
  | ok t =>
    have hset : s.set key v.compact = .ok t := hw
    have hsound : s.fault = none := by
      unfold write at hw
      split at hw
      · cases hw
      · next hf => exact hf
    show t.get? key = _
    rw [if_pos hsound, get?_set hset, if_pos rfl]
  | error fault =>
    have hfault : s.fault ≠ none := by
      intro hf
      unfold write at hw
      rw [hf] at hw
      cases hw
    rw [if_neg hfault]
    rfl

/-- A text under the key of a session that is forgotten does not stay, unless writes fail. -/
theorem get?_clearSession (s : Store) :
    (s.attempt s.clearSession).get? Key.session = none ∨
    (s.attempt s.clearSession).get? Key.session = s.get? Key.session := by
  unfold clearSession
  cases hr : s.remove Key.session with
  | ok t =>
    left
    show t.get? Key.session = none
    rw [get?_remove hr, if_pos rfl]
  | error fault => exact Or.inr rfl

/-- It goes as long as writes succeed. -/
theorem get?_clearSession_of_sound {s : Store} (sound : s.fault = none) :
    (s.attempt s.clearSession).get? Key.session = none := by
  unfold clearSession
  cases hr : s.remove Key.session with
  | ok t =>
    show t.get? Key.session = none
    rw [get?_remove hr, if_pos rfl]
  | error fault =>
    -- a removal fails only where a write does
    unfold remove write at hr
    rw [sound] at hr
    split at hr
    · cases hr
    · cases hr

/-- What is read under a key depends on the text there alone. -/
theorem load?_congr {α : Type} {s t : Store} {key : String} (h : t.get? key = s.get? key)
    (d : Json.Decoder α) : t.load? key d = s.load? key d := by
  unfold load?
  rw [h]

theorem loadFavorites_congr {s t : Store} (h : t.get? Key.favorites = s.get? Key.favorites) :
    t.loadFavorites = s.loadFavorites := by
  unfold loadFavorites
  rw [load?_congr h]

end Store

/-! ## Keys -/

namespace Key

/-- The keys of mails begin with a letter with which no other key begins. -/
theorem resend_ne {key : String} (h : key.toList.head? ≠ some 'e') (email : String) :
    resend email ≠ key := by
  rintro rfl
  rw [resend, String.toList_append] at h
  exact h rfl

end Key

end Shoreline
