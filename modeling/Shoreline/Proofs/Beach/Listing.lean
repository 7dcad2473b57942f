import Shoreline.Beach
import Shoreline.Proofs.Json.Slots

/-!
# `Shoreline.Proofs.Beach.Listing` — which items of an array are read as beaches

Every object is a beach: each member is taken as it is, whatever it is, and one that is missing is taken
for null. So an array of objects and other things holds one beach for each of its objects. But records
are also read from arrays, item by item in the order of the fields, and a beach takes anything for every
field. So an array inside the list is a beach as well, unless it has more items than a beach has members.

## Contents
- `Beach.ofMember`, `Beach.decoder_of_row`: a beach is made of the values at its members.
- `Beach.ofMembers`, `Beach.ofRow`, `Beach.ofValue?`; `Beach.fromValue?_eq`.
- `Beach.isRow`, `Beach.objectMembers?`, `Beach.length_listOf`; `Beach.SameAt`, `Beach.sameAt_ofMembers`.
- `Beach.list_by_element_iff`, with a list of objects and other things, and `Beach.rows_are_listed`.
-/

namespace Shoreline

open Json

/-- The level of crowding is the same in normal form. -/
@[simp] theorem Crowding.ofValue_normal (v : Value) : ofValue v.normal = ofValue v := by
  cases v <;> rfl

/-- A coordinate is the same in normal form. -/
@[simp] theorem Degrees.ofValue?_normal (v : Value) : ofValue? v.normal = ofValue? v := by
  cases v <;> rfl

namespace Beach

/-! ## Beaches from the values at their members -/

/-- The beach at whose members stand the given values. -/
def ofMember (member : String → Value) : Beach where
  id := (member "id").asText
  code := (member "code").asText
  name := (member "name").asText
  status := Crowding.ofValue (member "status")
  latitude := Degrees.ofValue? (member "latitude")
  longitude := Degrees.ofValue? (member "longitude")
  updatedAt := (member "updatedAt").asString?
  tag := (member "tag").asString?
  isFavorite := (member "isFavorite").isTruthy

/-- **What is read from a row is the beach of the values in its slots**, and none of them spoils it. -/
theorem decoder_of_row {room : Nat} {d : Document} {r : Row} {member : String → Value}
    (hrow : d.row? members room = some r)
    (h : ∀ name ∈ members, r.orElse name .null Decoder.value = some (member name).normal) :
    decoder room d = some (ofMember member) := by
  unfold members at h
  simp only [List.forall_mem_cons] at h
  obtain ⟨hid, hcode, hname, hstatus, hlatitude, hlongitude, hupdatedAt, htag, hisFavorite, -⟩ := h
  unfold decoder ofMember
  simp only [hrow, hid, hcode, hname, hstatus, hlatitude, hlongitude, hupdatedAt, htag, hisFavorite,
    Option.bind_eq_bind, Option.bind_some, Option.pure_def, Value.asText_normal,
    Value.asString?_normal, Value.isTruthy_normal, Crowding.ofValue_normal, Degrees.ofValue?_normal]

/-- The beach of an object's members. -/
def ofMembers (ms : List (String × Value)) : Beach := ofMember (Value.member ms)

/-- The item of an array that stands for a member: the one at the place of the member, or null. -/
def itemAt (row : List Value) (name : String) : Value := row[members.idxOf name]?.getD .null

/-- The beach of an array's items. -/
def ofRow (row : List Value) : Beach := ofMember (itemAt row)

/-- The beach that a value is read as, if it is read as one. -/
def ofValue? : Value → Option Beach
  | .obj ms => some (ofMembers ms)
  | .arr row => if row.length ≤ members.length then some (ofRow row) else none
  | _ => none

/-- **Every object is a beach**, and each of its members counts for itself. -/
theorem fromValue?_obj (ms : List (String × Value)) :
    decoder.fromValue? (.obj ms) = some (ofMembers ms) := by
  have hdepth : ∀ e ∈ (Value.normalMap ms).entries, e.2.depth ≤ Value.depthMembers ms := by
    have hle := Value.depth_normal_le (.obj ms)
    rw [Value.normal_obj] at hle
    exact Value.depthMembers_le_iff.mp (Nat.le_of_succ_le_succ hle)
  obtain ⟨r, hrow, hroom, hslot⟩ := Row.exists_of_taken (Value.normalMap ms).nodup_keys members
    (Value.depthMembers ms + 1)
  have hread : ∀ name ∈ members, r.orElse name .null Decoder.value =
      some (Value.member ms name).normal := by
    intro name hname
    have hlookup : (Value.normalMap ms).entries.lookup name =
        ((Text.SortedMap.ofList ms).get? name).map Value.normal := Value.get?_normalMap ms name
    have hvalue := Row.orElse_value (hslot name hname) nofun fun w hw => by
      rw [hroom]
      exact Nat.le_succ_of_le (hdepth (name, w) (Text.SortedMap.mem_of_lookup hw))
    rw [hvalue, hlookup]
    unfold Value.member
    cases (Text.SortedMap.ofList ms).get? name with
    | none => rfl
    | some v => exact congrArg some (Value.normal_normal v)
  unfold Decoder.fromValue? Value.toDocument
  rw [Value.normal_obj]
  exact decoder_of_row hrow hread

/-- **An array is a beach** if it has no more items than a beach has members. -/
theorem fromValue?_arr_of_le {row : List Value} (h : row.length ≤ members.length) :
    decoder.fromValue? (.arr row) = some (ofRow row) := by
  have hlength : (row.map Value.normal).length ≤ members.length := by rwa [List.length_map]
  have hdepth : ∀ v ∈ row, v.normal.depth ≤ Value.depthItems row := fun v hv =>
    Nat.le_trans v.depth_normal_le (Value.depthItems_le_iff.mp (Nat.le_refl _) v hv)
  obtain ⟨r, hrow, hroom, hslot⟩ := Row.exists_of_array (by decide) hlength
    (Value.depthItems row + 1)
  have hread : ∀ name ∈ members, r.orElse name .null Decoder.value =
      some (itemAt row name).normal := by
    intro name hname
    have hvalue := Row.orElse_value (hslot name hname) nofun fun w hw => by
      rw [List.getElem?_map] at hw
      obtain ⟨v, hv, rfl⟩ := Option.map_eq_some_iff.mp hw
      rw [hroom]
      exact Nat.le_succ_of_le (hdepth v (List.mem_of_getElem? hv))
    rw [hvalue, List.getElem?_map]
    unfold itemAt
    cases row[members.idxOf name]? with
    | none => rfl
    | some v => exact congrArg some (Value.normal_normal v)
  unfold Decoder.fromValue? Value.toDocument
  rw [Value.normal, Value.normalItems_eq_map]
  exact decoder_of_row hrow hread

/-- It is none if it has more. -/
theorem fromValue?_arr_of_lt {row : List Value} (h : members.length < row.length) :
    decoder.fromValue? (.arr row) = none := by
  have hrow : (Value.arr (row.map Value.normal)).taken.row? members (Value.depthItems row + 2) = none :=
    row?_long (by rwa [List.length_map]) _
  unfold Decoder.fromValue? Value.toDocument
  rw [Value.normal, Value.normalItems_eq_map]
  show decoder (Value.depthItems row + 2) _ = none
  unfold decoder
  rw [hrow]
  rfl

/-- **Which values are read as beaches, and as which.** -/
theorem fromValue?_eq (v : Value) : decoder.fromValue? v = ofValue? v := by
  cases v with
  | obj ms => exact fromValue?_obj ms
  | arr row =>
    show _ = if row.length ≤ members.length then some (ofRow row) else none
    split
    · next h => exact fromValue?_arr_of_le h
    · next h => exact fromValue?_arr_of_lt (Nat.lt_of_not_le h)
  | _ => rfl

/-! ## Lists -/

/-- An array with no more items than a beach has members. -/
def isRow : Value → Bool
  | .arr row => row.length ≤ members.length
  | _ => false

/-- The members of an object. -/
def objectMembers? : Value → Option (List (String × Value))
  | .obj ms => some ms
  | _ => none

theorem listOf_arr (items : List Value) : listOf (.arr items) = items.filterMap ofValue? := by
  show items.filterMap decoder.fromValue? = _
  rw [funext fromValue?_eq]

/-- **As many beaches are listed as there are objects and short arrays.** -/
theorem length_listOf (items : List Value) :
    (listOf (.arr items)).length =
      (items.filterMap objectMembers?).length + items.countP isRow := by
  rw [listOf_arr]
  induction items with
  | nil => rfl
  | cons item items ih =>
    rw [List.countP_cons]
    cases item with
    | obj ms =>
      show (items.filterMap ofValue?).length + 1 = (items.filterMap objectMembers?).length + 1 + _
      rw [ih]
      exact Nat.add_right_comm _ _ 1
    | arr row =>
      rw [List.filterMap_cons_none (f := objectMembers?) rfl]
      by_cases h : row.length ≤ members.length
      · have hread : ofValue? (.arr row) = some (ofRow row) := if_pos h
        have hrow : isRow (.arr row) = true := decide_eq_true h
        rw [List.filterMap_cons_some hread, List.length_cons, ih, if_pos hrow]
        rfl
      · have hread : ofValue? (.arr row) = none := if_neg h
        have hrow : ¬ isRow (.arr row) = true := fun hrow => h (of_decide_eq_true hrow)
        rw [List.filterMap_cons_none hread, ih, if_neg hrow]
        rfl
    | _ => exact ih

/-- **Where no short array stands, the beaches are those of the objects, in order.** -/
theorem listOf_eq_map {items : List Value} (h : ∀ item ∈ items, isRow item = false) :
    listOf (.arr items) = (items.filterMap objectMembers?).map ofMembers := by
  rw [listOf_arr]
  induction items with
  | nil => rfl
  | cons item items ih =>
    have hrest := ih fun item hitem => h item (List.mem_cons_of_mem _ hitem)
    cases item with
    | obj ms => exact congrArg (ofMembers ms :: ·) hrest
    | arr row =>
      have hread : ofValue? (.arr row) = none :=
        if_neg (of_decide_eq_false (h (.arr row) List.mem_cons_self))
      rw [List.filterMap_cons_none hread, hrest]
      rfl
    | _ => exact hrest

/-! ## Members count for themselves -/

/-- Two beaches are the same in what is read at a name. -/
def SameAt (b c : Beach) (name : String) : Prop :=
  match name with
  | "id" => b.id = c.id
  | "code" => b.code = c.code
  | "name" => b.name = c.name
  | "status" => b.status = c.status
  | "latitude" => b.latitude = c.latitude
  | "longitude" => b.longitude = c.longitude
  | "updatedAt" => b.updatedAt = c.updatedAt
  | "tag" => b.tag = c.tag
  | "isFavorite" => b.isFavorite = c.isFavorite
  | _ => True

/-- **What is read at a name comes from what stands at that name alone.** -/
theorem sameAt_ofMembers {ms ns : List (String × Value)} {name : String}
    (h : Value.member ms name = Value.member ns name) : SameAt (ofMembers ms) (ofMembers ns) name := by
  unfold SameAt
  split
  · exact congrArg Value.asText h
  · exact congrArg Value.asText h
  · exact congrArg Value.asText h
  · exact congrArg Crowding.ofValue h
  · exact congrArg Degrees.ofValue? h
  · exact congrArg Degrees.ofValue? h
  · exact congrArg Value.asString? h
  · exact congrArg Value.asString? h
  · exact congrArg Value.isTruthy h
  · trivial

/-! ## The list -/

/-- **A list of beaches is read element by element exactly if no short array stands in it.** From an array
just the objects are read, one beach each and in their order, if and only if none of its items is an
array with at most as many items as a beach has members. Such an array would be a beach as well, and
nothing else would. What is no array holds no beaches. Every object makes a beach, whatever stands at
its members, and what the beach has at a name depends on what stands at that name alone. -/
theorem list_by_element_iff (items : List Value) :
    (listOf (.arr items) = (items.filterMap objectMembers?).map ofMembers ↔
      ∀ item ∈ items, isRow item = false) ∧
    listOf (.arr items) = items.filterMap ofValue? ∧
    (∀ v, (∀ row, v ≠ .arr row) → listOf v = []) ∧
    (∀ ms, decoder.fromValue? (.obj ms) = some (ofMembers ms)) ∧
    ∀ ms ns name, Value.member ms name = Value.member ns name →
      SameAt (ofMembers ms) (ofMembers ns) name := by
  refine ⟨⟨?_, listOf_eq_map⟩, listOf_arr items, ?_, fromValue?_obj, fun _ _ _ => sameAt_ofMembers⟩
  · intro hlist
    have hlength := length_listOf items
    rw [hlist, List.length_map] at hlength
    have hcount : items.countP isRow = 0 := by omega
    intro item hitem
    exact Bool.eq_false_iff.mpr (List.countP_eq_zero.mp hcount item hitem)
  · intro v hv
    cases v with
    | arr row => exact absurd rfl (hv row)
    | _ => rfl

/-- A list with everything that a list may hold but short arrays: an object whose members have types of all
kinds, one without members, a text, a number, and an array of ten. -/
def mixed : List Value :=
  [.obj [("id", .arr []), ("code", .obj []), ("status", .bool true), ("latitude", .obj [("id", .null)]),
    ("isFavorite", .arr []), ("id", .str "7")], .str "garbage", .int 5, .obj [],
    .arr (List.replicate 10 .null)]

/-- It holds two beaches: the first has the later one of two ids, and of the second nothing is known. -/
theorem list_by_element_iff_mixed :
    (∀ item ∈ mixed, isRow item = false) ∧ (∀ row, Value.str "garbage" ≠ .arr row) ∧
    (listOf (.arr mixed)).map (fun b => (b.id, b.code, b.status, b.isFavorite)) =
      [("7", "\x7b\x7d", .unknown, true), ("", "", .unknown, false)] ∧
    listOf (.str "garbage") = [] := by
  have hrows : ∀ item ∈ mixed, isRow item = false := by decide
  obtain ⟨hiff, -, hnone, -⟩ := list_by_element_iff mixed
  refine ⟨hrows, nofun, ?_, hnone (.str "garbage") nofun⟩
  rw [hiff.mpr hrows]
  rfl

/-- **An array in a list is read as a beach**, although it is no object: its first item is the id. -/
theorem rows_are_listed :
    (listOf (.arr [.arr [.str "b"]])).map (·.id) = ["b"] ∧
    ([Value.arr [.str "b"]].filterMap objectMembers?).map ofMembers = [] :=
  ⟨rfl, rfl⟩

end Beach

end Shoreline
