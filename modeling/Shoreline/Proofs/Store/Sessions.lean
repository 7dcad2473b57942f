import Shoreline.Proofs.Json.Record
import Shoreline.Proofs.Store.Change

/-!
# `Shoreline.Proofs.Store.Sessions` — the session is read back

A session is kept as a record that holds the record of its user. Both are read back from what is written
for them, whatever texts they hold, as long as the two numbers of the session fit 64 bits with sign. What
the server grants does: its numbers were read that way. So loading a session that was kept gives that
session, or none if it cannot be used.

## Contents
- `Session.Storable`; `Profile.decoder_taken`, `Session.decoder_taken`.
- `LoginGrant.isInt64_of_decoder`, `TokenGrant.isInt64_of_decoder`; `Session.storable_ofGrant`,
  `Session.storable_renewed`: what the server grants can be kept.
- `Store.loadSession_congr`, `Store.loadSession_saveSession`, `Store.loadSession_clearSession`.
-/

namespace Shoreline

open Json

/-! ## Users -/

namespace Profile

/-- The members of a written profile. -/
def members (p : Profile) : List (String × Value) :=
  [("id", .str p.id), ("email", .str p.email), ("name", .str p.name), ("role", .str p.role),
    ("createdAt", .str p.createdAt), ("lastLoginAt", .optionStr p.lastLoginAt)]

theorem toValue_eq (p : Profile) : p.toValue = .obj p.members := rfl

/-- The names of the fields, in their order. -/
theorem names_members (p : Profile) :
    p.members.map Prod.fst = ["id", "email", "name", "role", "createdAt", "lastLoginAt"] := rfl

/-- **A profile is read back.** -/
theorem decoder_taken (p : Profile) (room : Nat) : decoder (room + 1) p.toValue.taken = some p := by
  have nodup : (p.members.map Prod.fst).Nodup := by
    rw [names_members]
    decide
  obtain ⟨row, hrow, rfl, hslot⟩ := Row.exists_of_members nodup room
  rw [names_members, ← toValue_eq] at hrow
  have htext : ∀ s, Decoder.text row.room (Value.str s).taken = some s := fun _ => rfl
  unfold decoder
  rw [hrow]
  simp only [Option.bind_eq_bind, Option.bind_some,
    Row.required_of (hslot "id" (.str p.id) (by simp [members])) (htext _),
    Row.required_of (hslot "email" (.str p.email) (by simp [members])) (htext _),
    Row.required_of (hslot "name" (.str p.name) (by simp [members])) (htext _),
    Row.required_of (hslot "role" (.str p.role) (by simp [members])) (htext _),
    Row.required_of (hslot "createdAt" (.str p.createdAt) (by simp [members])) (htext _),
    Row.orElse_of (hslot "lastLoginAt" (.optionStr p.lastLoginAt) (by simp [members])) none
      (Decoder.nullable_optionStr _ _)]
  rfl

/-- There is no number in a written profile. -/
theorem exact_toValue (p : Profile) : p.toValue.Exact := by
  have hoption : (Value.optionStr p.lastLoginAt).Exact := by cases p.lastLoginAt <;> trivial
  exact ⟨trivial, trivial, trivial, trivial, trivial, hoption, trivial⟩

end Profile

/-! ## Sessions -/

/-- A session that is read back from what is written for it. -/
structure Session.Storable (s : Session) : Prop where
  expiresIn : IsInt64 s.expiresIn
  issuedAt : IsInt64 s.issuedAt

namespace Session

/-- The members of a written session. -/
def members (s : Session) : List (String × Value) :=
  [("accessToken", .str s.accessToken), ("refreshToken", .str s.refreshToken),
    ("tokenType", .str s.tokenType), ("expiresIn", .int s.expiresIn), ("user", s.user.toValue),
    ("issuedAt", .int s.issuedAt)]

theorem toValue_eq (s : Session) : s.toValue = .obj s.members := rfl

/-- The names of the fields, in their order. -/
theorem names_members (s : Session) : s.members.map Prod.fst =
    ["accessToken", "refreshToken", "tokenType", "expiresIn", "user", "issuedAt"] := rfl

/-- **A session that can be kept is read back.** -/
theorem decoder_taken {s : Session} (h : s.Storable) (room : Nat) :
    decoder (room + 2) s.toValue.taken = some s := by
  have nodup : (s.members.map Prod.fst).Nodup := by
    rw [names_members]
    decide
  obtain ⟨row, hrow, hroom, hslot⟩ := Row.exists_of_members nodup (room + 1)
  rw [names_members, ← toValue_eq] at hrow
  have htext : ∀ t, Decoder.text row.room (Value.str t).taken = some t := fun _ => rfl
  -- the user stands one level deeper
  have huser : Profile.decoder row.room s.user.toValue.taken = some s.user := by
    rw [hroom]
    exact s.user.decoder_taken room
  unfold decoder
  rw [hrow]
  simp only [Option.bind_eq_bind, Option.bind_some,
    Row.required_of (hslot "accessToken" (.str s.accessToken) (by simp [members])) (htext _),
    Row.required_of (hslot "refreshToken" (.str s.refreshToken) (by simp [members])) (htext _),
    Row.required_of (hslot "tokenType" (.str s.tokenType) (by simp [members])) (htext _),
    Row.required_of (hslot "expiresIn" (.int s.expiresIn) (by simp [members]))
      (Decoder.int64_int h.expiresIn _),
    Row.required_of (hslot "user" s.user.toValue (by simp [members])) huser,
    Row.required_of (hslot "issuedAt" (.int s.issuedAt) (by simp [members]))
      (Decoder.int64_int h.issuedAt _)]
  rfl

/-- Every number in a written session is a whole number of 64 bits. -/
theorem exact_toValue {s : Session} (h : s.Storable) : s.toValue.Exact := by
  have hword : ∀ {i : Int}, IsInt64 i → IsWord i := by
    intro i hi
    unfold IsInt64 at hi
    unfold IsWord
    omega
  exact ⟨trivial, trivial, trivial, hword h.expiresIn, s.user.exact_toValue, hword h.issuedAt, trivial⟩

/-- **The text of a session that can be kept is read back.** -/
theorem fromText?_compact {s : Session} (h : s.Storable) :
    decoder.fromText? s.toValue.compact = some s := by
  rw [Decoder.fromText?_compact decoder (exact_toValue h)]
  exact decoder_taken h 125

end Session

/-! ## Grants -/

theorem LoginGrant.isInt64_of_decoder {room : Nat} {doc : Document} {g : LoginGrant}
    (h : decoder room doc = some g) : IsInt64 g.expiresIn := by
  unfold decoder at h
  obtain ⟨row, _, h⟩ := Option.bind_eq_some_iff.mp h
  obtain ⟨accessToken, _, h⟩ := Option.bind_eq_some_iff.mp h
  obtain ⟨refreshToken, _, h⟩ := Option.bind_eq_some_iff.mp h
  obtain ⟨tokenType, _, h⟩ := Option.bind_eq_some_iff.mp h
  obtain ⟨expiresIn, hexpires, h⟩ := Option.bind_eq_some_iff.mp h
  obtain ⟨user, _, h⟩ := Option.bind_eq_some_iff.mp h
  rw [← Option.some.inj h]
  obtain ⟨expiresDoc, hread⟩ := Row.of_required hexpires
  exact Decoder.isInt64_of_int64 hread

theorem TokenGrant.isInt64_of_decoder {room : Nat} {doc : Document} {g : TokenGrant}
    (h : decoder room doc = some g) : IsInt64 g.expiresIn := by
  unfold decoder at h
  obtain ⟨row, _, h⟩ := Option.bind_eq_some_iff.mp h
  obtain ⟨accessToken, _, h⟩ := Option.bind_eq_some_iff.mp h
  obtain ⟨tokenType, _, h⟩ := Option.bind_eq_some_iff.mp h
  obtain ⟨expiresIn, hexpires, h⟩ := Option.bind_eq_some_iff.mp h
  rw [← Option.some.inj h]
  obtain ⟨expiresDoc, hread⟩ := Row.of_required hexpires
  exact Decoder.isInt64_of_int64 hread

namespace Session

/-- The session of a grant that was read can be kept. -/
theorem storable_ofGrant {room : Nat} {doc : Document} {g : LoginGrant} {now : Int}
    (h : LoginGrant.decoder room doc = some g) (hnow : IsInt64 now) : (ofGrant g now).Storable where
  expiresIn := LoginGrant.isInt64_of_decoder h
  issuedAt := hnow

/-- So can the session with a new token, whatever session it was. -/
theorem storable_renewed {room : Nat} {doc : Document} {g : TokenGrant} {now : Int} (s : Session)
    (h : TokenGrant.decoder room doc = some g) (hnow : IsInt64 now) : (s.renewed g now).Storable where
  expiresIn := TokenGrant.isInt64_of_decoder h
  issuedAt := hnow

end Session

namespace Store

/-! ## Keeping a session -/

theorem loadSession_congr {s t : Store} (h : t.get? Key.session = s.get? Key.session) :
    t.loadSession = s.loadSession := by
  unfold loadSession
  rw [load?_congr h]

/-- **A session that was kept is loaded if it can be used**, as long as writes succeed. -/
theorem loadSession_saveSession {s : Store} (sound : s.fault = none) {session : Session}
    (h : session.Storable) : (s.attempt (s.saveSession session)).loadSession =
      (some session).filter Session.isUsable := by
  have hkept : (s.attempt (s.saveSession session)).get? Key.session = some session.toValue.compact := by
    unfold saveSession
    rw [get?_attempt_save, if_pos sound]
  unfold loadSession load?
  rw [hkept, Option.bind_some, Session.fromText?_compact h]

/-- A session that was forgotten is not loaded, as long as writes succeed. -/
theorem loadSession_clearSession {s : Store} (sound : s.fault = none) :
    (s.attempt s.clearSession).loadSession = none := by
  unfold loadSession load?
  rw [get?_clearSession_of_sound sound]
  rfl

end Store

end Shoreline
