import Shoreline.Proofs.Json.Record
import Shoreline.Proofs.Store.Change
import Shoreline.Proofs.Time.ReadBack

/-!
# `Shoreline.Proofs.Store.Visits` — the list of visits is read back

The list of visits is loaded and saved as a whole: adding a visit and dropping one both read the text that
is kept, change the list and write it anew. So nothing is lost only if what was written is read back. It
is for visits that can be kept: their hour is a word of 32 bits and they were made at an instant of the
calendar. Every visit that was loaded is one.

## Contents
- `Visit.Storable`; `Visit.decoder_taken`, `Visit.storable_of_decoder`.
- `Store.storable_of_loadVisits`, `Store.loadVisits_of_saved`.
- `Store.loadVisits_addVisit`, `Store.removeVisit_ok`: what the two changes do to the list.
-/

namespace Shoreline

open Json Time

/-- A visit that is read back from what is written for it. -/
structure Visit.Storable (v : Visit) : Prop where
  hour : v.hour < 2 ^ 32
  createdAt : v.createdAt.Valid

namespace Visit

/-! ## One visit -/

/-- The members of a written visit. -/
def members (v : Visit) : List (String × Value) :=
  [("id", .str v.id), ("reservationId", .optionStr v.reservationId),
    ("beachId", .optionStr v.beachId), ("beachName", .str v.beachName), ("date", .str v.date.iso),
    ("hour", .int v.hour), ("status", .str v.status.name), ("createdAt", .str (writeShort v.createdAt))]

theorem toValue_eq (v : Visit) : v.toValue = .obj v.members := rfl

/-- The names of the fields, in their order. -/
theorem names_members (v : Visit) : v.members.map Prod.fst =
    ["id", "reservationId", "beachId", "beachName", "date", "hour", "status", "createdAt"] := rfl

/-- **A visit that can be kept is read back.** -/
theorem decoder_taken {v : Visit} (h : v.Storable) (room : Nat) :
    decoder (room + 1) v.toValue.taken = some v := by
  have nodup : (v.members.map Prod.fst).Nodup := by
    rw [names_members]
    decide
  obtain ⟨row, hrow, rfl, hslot⟩ := Row.exists_of_members nodup room
  rw [names_members, ← toValue_eq] at hrow
  have hcreated : Decoder.named Instant.parse? row.room (Value.str (writeShort v.createdAt)).taken =
      some v.createdAt := (Decoder.named_str _ _ _).trans (Instant.parse?_writeShort h.createdAt)
  have hdate : Decoder.named Date.parse? row.room (Value.str v.date.iso).taken = some v.date :=
    (Decoder.named_str _ _ _).trans v.date.parse?_iso
  have hstatus : Congestion.decoder row.room (Value.str v.status.name).taken = some v.status :=
    (Decoder.oneOf_str _ _ _).trans v.status.named?_name
  have htext : ∀ s, Decoder.text row.room (Value.str s).taken = some s := fun _ => rfl
  unfold decoder
  rw [hrow]
  simp only [Option.bind_eq_bind, Option.bind_some,
    Row.required_of (hslot "id" (.str v.id) (by simp [members])) (htext _),
    Row.orElse_of (hslot "reservationId" (.optionStr v.reservationId) (by simp [members])) none
      (Decoder.nullable_optionStr _ _),
    Row.orElse_of (hslot "beachId" (.optionStr v.beachId) (by simp [members])) none
      (Decoder.nullable_optionStr _ _),
    Row.required_of (hslot "beachName" (.str v.beachName) (by simp [members])) (htext _),
    Row.required_of (hslot "date" (.str v.date.iso) (by simp [members])) hdate,
    Row.required_of (hslot "hour" (.int v.hour) (by simp [members])) (Decoder.word32_int h.hour _),
    Row.required_of (hslot "status" (.str v.status.name) (by simp [members])) hstatus,
    Row.required_of (hslot "createdAt" (.str (writeShort v.createdAt)) (by simp [members])) hcreated]
  rfl

/-- Every visit that was read can be kept. -/
theorem storable_of_decoder {room : Nat} {doc : Document} {v : Visit}
    (h : decoder room doc = some v) : v.Storable := by
  unfold decoder at h
  obtain ⟨row, _, h⟩ := Option.bind_eq_some_iff.mp h
  obtain ⟨id, _, h⟩ := Option.bind_eq_some_iff.mp h
  obtain ⟨reservationId, _, h⟩ := Option.bind_eq_some_iff.mp h
  obtain ⟨beachId, _, h⟩ := Option.bind_eq_some_iff.mp h
  obtain ⟨beachName, _, h⟩ := Option.bind_eq_some_iff.mp h
  obtain ⟨date, _, h⟩ := Option.bind_eq_some_iff.mp h
  obtain ⟨hour, hhour, h⟩ := Option.bind_eq_some_iff.mp h
  obtain ⟨status, _, h⟩ := Option.bind_eq_some_iff.mp h
  obtain ⟨createdAt, hcreated, h⟩ := Option.bind_eq_some_iff.mp h
  rw [← Option.some.inj h]
  obtain ⟨hourDoc, hhour⟩ := Row.of_required hhour
  obtain ⟨createdDoc, hcreated⟩ := Row.of_required hcreated
  obtain ⟨text, _, hparsed⟩ := Option.bind_eq_some_iff.mp hcreated
  exact ⟨Decoder.word32_lt hhour, Instant.valid_of_parse? hparsed⟩

/-- Every number in a written visit is a whole number of 64 bits. -/
theorem exact_toValue {v : Visit} (h : v.Storable) : v.toValue.Exact := by
  have hword : IsWord v.hour := by
    have hhour := h.hour
    unfold IsWord
    omega
  have hoption : ∀ o, (Value.optionStr o).Exact := fun o => by cases o <;> trivial
  exact ⟨trivial, hoption _, hoption _, trivial, trivial, hword, trivial, trivial, trivial⟩

end Visit

namespace Store

/-! ## The list -/

theorem loadVisits_congr {s t : Store} (h : t.get? Key.visits = s.get? Key.visits) :
    t.loadVisits = s.loadVisits := by
  unfold loadVisits
  rw [load?_congr h]

/-- Every visit that was loaded can be kept. -/
theorem storable_of_loadVisits {s : Store} {v : Visit} (h : v ∈ s.loadVisits) : v.Storable := by
  unfold loadVisits at h
  cases hload : s.load? Key.visits (Decoder.list Visit.decoder) with
  | none =>
    rw [hload] at h
    exact absurd h List.not_mem_nil
  | some visits =>
    rw [hload] at h
    obtain ⟨text, _, htext⟩ := Option.bind_eq_some_iff.mp hload
    obtain ⟨doc, _, hdoc⟩ := Option.bind_eq_some_iff.mp htext
    obtain ⟨item, hitem⟩ := Decoder.of_list hdoc v h
    exact Visit.storable_of_decoder hitem

/-- **The list that was saved is loaded**, if writes succeed and its members can be kept. -/
theorem loadVisits_of_saved {s t : Store} {visits : List Visit} (h : s.saveVisits visits = .ok t)
    (storable : ∀ v ∈ visits, v.Storable) : t.loadVisits = visits := by
  have hkept : t.get? Key.visits = some (Value.list Visit.toValue visits).compact := by
    rw [get?_set h, if_pos rfl]
  have hexact : (Value.list Visit.toValue visits).Exact :=
    Value.exactItems_map fun v hv => Visit.exact_toValue (storable v hv)
  have hread : (Decoder.list Visit.decoder).fromText? (Value.list Visit.toValue visits).compact =
      some visits := by
    rw [Decoder.fromText?_compact _ hexact]
    exact Decoder.list_taken fun v hv => Visit.decoder_taken (storable v hv) _
  unfold loadVisits load?
  rw [hkept, Option.bind_some, hread]
  rfl

/-- **Adding a visit appends it to the list**, if writes succeed. -/
theorem loadVisits_addVisit {s : Store} (sound : s.fault = none) {v : Visit} (h : v.Storable) :
    (s.attempt (s.addVisit v)).loadVisits = s.loadVisits ++ [v] := by
  obtain ⟨t, ht⟩ : ∃ t, s.saveVisits (s.loadVisits ++ [v]) = .ok t := save_ok sound _ _
  have hadded : s.addVisit v = .ok t := ht
  rw [hadded]
  refine loadVisits_of_saved ht fun u hu => ?_
  rcases List.mem_append.mp hu with hold | hnew
  · exact storable_of_loadVisits hold
  · rw [List.mem_singleton.mp hnew]
    exact h

/-- **Dropping an id takes the visits with that id out of the list**, if writes succeed, and keeps the
others in their order. -/
theorem removeVisit_ok {s : Store} (sound : s.fault = none) (id : String) :
    ∃ t found, s.removeVisit id = .ok (t, found) ∧
      t.loadVisits = s.loadVisits.filter (·.id != id) := by
  unfold removeVisit
  dsimp only
  split
  · next hsame =>
    -- nothing is written when no visit has the id
    refine ⟨s, false, rfl, ?_⟩
    exact (List.filter_eq_self.mpr (List.length_filter_eq_length_iff.mp hsame)).symm
  · obtain ⟨t, ht⟩ : ∃ t, s.saveVisits (s.loadVisits.filter (·.id != id)) = .ok t :=
      save_ok sound _ _
    refine ⟨t, true, by rw [ht]; rfl, ?_⟩
    exact loadVisits_of_saved ht fun u hu => storable_of_loadVisits (List.mem_filter.mp hu).1

end Store

end Shoreline
