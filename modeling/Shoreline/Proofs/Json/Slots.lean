import Shoreline.Proofs.Json.Normal

/-!
# `Shoreline.Proofs.Json.Slots` — what stands for the fields of a record

A record whose fields have different names is read out of an object or an array. Whatever the object
holds, the slot of a field is what stands at its name, or empty; an array fills the slots in the order of
the fields, and has too many items for the record or leaves the last slots empty. Where a field takes any
value and has null for its default, it can be read in both cases.

## Contents
- `FieldSlot.ofValue`: the slot of a value, or an empty one.
- `exists_mapM_iff`; `Row.exists_of_found`, `Row.of_object`: which objects are records.
- `findMember_taken_eq`, `Row.exists_of_taken`: the row of an object that was taken apart.
- `fillSlots_of_length_le`, `fillSlots_of_length_lt`, `Row.exists_of_array`, `row?_long`: that of an array.
- `Row.orElse_value`: a field for any value.
-/

namespace Shoreline.Json

open Value

/-- The slot in which a value stands, or one that is empty in some way. -/
def FieldSlot.ofValue (empty : FieldSlot) : Option Value → FieldSlot
  | some v => .given v.taken
  | none => empty

/-- A list is read item by item exactly if each item can be read. -/
theorem exists_mapM_iff {α β : Type} {f : α → Option β} {l : List α} :
    (∃ bs, l.mapM f = some bs) ↔ ∀ a ∈ l, ∃ b, f a = some b := by
  induction l with
  | nil => exact iff_of_true ⟨[], rfl⟩ nofun
  | cons a l ih =>
    rw [List.forall_mem_cons, ← ih, List.mapM_cons]
    constructor
    · rintro ⟨bs, h⟩
      obtain ⟨b, hb, h⟩ := Option.bind_eq_some_iff.mp h
      obtain ⟨rest, hrest, -⟩ := Option.bind_eq_some_iff.mp h
      exact ⟨⟨b, hb⟩, rest, hrest⟩
    · rintro ⟨⟨b, hb⟩, rest, hrest⟩
      exact ⟨b :: rest, by rw [hb, hrest]; rfl⟩

/-! ## Objects -/

/-- What is listed with each name is found at the name. -/
theorem lookup_map_pair {β : Type} {names : List String} {name : String} (h : name ∈ names)
    (f : String → β) : (names.map fun n => (n, f n)).lookup name = some (f name) := by
  induction names with
  | nil => cases h
  | cons n names ih =>
    rw [List.map_cons, Text.SortedMap.lookup_cons_ite]
    split
    · next he => rw [he]
    · next hne => exact ih ((List.mem_cons.mp h).resolve_left hne)

namespace Row

/-- **An object whose names can be read is a record** with any fields that are not repeated in it; the slot
of each holds the one member with its name. -/
theorem exists_of_found {ms : List (Option String × Document)} (named : ∀ m ∈ ms, m.1 ≠ none)
    {names : List String} (found : ∀ name ∈ names, ∃ slot, findMember name ms = some slot) (room : Nat) :
    ∃ r : Row, Document.row? names (room + 1) (.obj ms) = some r ∧ r.room = room ∧
      ∀ name ∈ names, findMember name ms = some (r.slot name) := by
  have hnamed : ms.any (·.1.isNone) = false := by
    refine List.any_eq_false.mpr fun m hm => ?_
    rw [Option.isNone_iff_eq_none]
    exact named m hm
  have hslots : (names.mapM (m := Option) fun name => (findMember name ms).map (name, ·)) =
      some (names.map fun name => (name, (findMember name ms).getD .missing)) := by
    clear hnamed
    induction names with
    | nil => rfl
    | cons name names ih =>
      obtain ⟨slot, hslot⟩ := found name List.mem_cons_self
      rw [List.mapM_cons, ih fun n hn => found n (List.mem_cons_of_mem name hn), List.map_cons, hslot]
      rfl
  refine ⟨⟨names.map fun name => (name, (findMember name ms).getD .missing), room⟩, ?_, rfl, ?_⟩
  · simp only [Document.row?, hnamed, Bool.false_eq_true, if_false, hslots, Option.map_some]
  · intro name hname
    obtain ⟨s, hs⟩ := found name hname
    unfold slot
    rw [lookup_map_pair hname fun name => (findMember name ms).getD .missing, hs]
    rfl

/-- **An object that is a record** has names that can be read, and no field is repeated in it. -/
theorem of_object {ms : List (Option String × Document)} {names : List String} {room : Nat} {r : Row}
    (h : Document.row? names (room + 1) (.obj ms) = some r) :
    (∀ m ∈ ms, m.1 ≠ none) ∧ r.room = room ∧
      ∀ name ∈ names, findMember name ms = some (r.slot name) := by
  have hrow := h
  unfold Document.row? at h
  dsimp only at h
  split at h
  · cases h
  · next hnamed =>
    have named : ∀ m ∈ ms, m.1 ≠ none := fun m hm hnone =>
      hnamed (List.any_eq_true.mpr ⟨m, hm, Option.isNone_iff_eq_none.mpr hnone⟩)
    obtain ⟨slots, hslots, -⟩ := Option.map_eq_some_iff.mp h
    have hfound : ∀ name ∈ names, ∃ slot, findMember name ms = some slot := by
      intro name hname
      obtain ⟨_, hfound⟩ := exists_mapM_iff.mp ⟨slots, hslots⟩ name hname
      obtain ⟨slot, hslot, -⟩ := Option.map_eq_some_iff.mp hfound
      exact ⟨slot, hslot⟩
    -- the row that is made of what was found is this one
    obtain ⟨r', hrow', hrest⟩ := exists_of_found named hfound room
    obtain rfl := Option.some.inj (hrow.symm.trans hrow')
    exact ⟨named, hrest⟩

end Row

/-- Where names are apart, the member with a name is the one that is looked up. -/
theorem findMember_taken_eq {members : List (String × Value)} (apart : (members.map Prod.fst).Nodup)
    (name : String) :
    findMember name (takenMembers members) = some (.ofValue .missing (members.lookup name)) := by
  cases hlookup : members.lookup name with
  | some v => exact findMember_taken apart (Text.SortedMap.mem_of_lookup hlookup)
  | none =>
    have hnone : (takenMembers members).filter (fun m => m.1 == some name) = [] := by
      rw [takenMembers_eq_map, List.filter_eq_nil_iff]
      intro d hd
      obtain ⟨m, hm, rfl⟩ := List.mem_map.mp hd
      have hne : name ≠ m.1 := by simpa using List.lookup_eq_none_iff.mp hlookup m hm
      simpa using hne.symm
    unfold findMember
    rw [hnone]
    rfl

/-- **An object that was taken apart is a record with any fields**; the slot of each holds what stands at
its name. -/
theorem Row.exists_of_taken {members : List (String × Value)} (apart : (members.map Prod.fst).Nodup)
    (names : List String) (room : Nat) :
    ∃ r : Row, (obj members).taken.row? names (room + 1) = some r ∧ r.room = room ∧
      ∀ name ∈ names, r.slot name = .ofValue .missing (members.lookup name) := by
  have named : ∀ m ∈ takenMembers members, m.1 ≠ none := by
    intro m hm
    rw [takenMembers_eq_map] at hm
    obtain ⟨e, _, rfl⟩ := List.mem_map.mp hm
    exact nofun
  obtain ⟨r, hrow, hroom, hslot⟩ :=
    exists_of_found named (fun name (_ : name ∈ names) => ⟨_, findMember_taken_eq apart name⟩) room
  exact ⟨r, hrow, hroom, fun name hname =>
    Option.some.inj ((hslot name hname).symm.trans (findMember_taken_eq apart name))⟩

/-! ## Arrays -/

/-- Items fill the slots in order, as long as there are slots. -/
theorem fillSlots_of_length_le {names : List String} (apart : names.Nodup) {items : List Value}
    (h : items.length ≤ names.length) :
    ∃ slots, fillSlots names (takenItems items) = some slots ∧
      ∀ name ∈ names, slots.lookup name = some (.ofValue .cut items[names.idxOf name]?) := by
  induction names generalizing items with
  | nil =>
    obtain rfl := List.eq_nil_of_length_eq_zero (Nat.le_zero.mp h)
    exact ⟨[], rfl, nofun⟩
  | cons n names ih =>
    obtain ⟨hn, happart⟩ := List.nodup_cons.mp apart
    -- the slot of the first field, and the slots of the others from the items that are left
    have hslots : ∃ slots, fillSlots names (takenItems items.tail) = some slots ∧
        fillSlots (n :: names) (takenItems items) = some ((n, .ofValue .cut items.head?) :: slots) ∧
        ∀ name ∈ names, slots.lookup name = some (.ofValue .cut items.tail[names.idxOf name]?) := by
      have htail : items.tail.length ≤ names.length := by
        rw [List.length_tail]
        rw [List.length_cons] at h
        omega
      obtain ⟨slots, hfill, hlookup⟩ := ih happart htail
      refine ⟨slots, hfill, ?_, hlookup⟩
      cases items with
      | nil =>
        show (fillSlots names []).map _ = _
        rw [show fillSlots names [] = some slots from hfill]
        rfl
      | cons v items =>
        show (fillSlots names (takenItems items)).map _ = _
        rw [show fillSlots names (takenItems items) = some slots from hfill]
        rfl
    obtain ⟨slots, -, hfill, hlookup⟩ := hslots
    refine ⟨_, hfill, fun name hname => ?_⟩
    rw [Text.SortedMap.lookup_cons_ite]
    by_cases he : name = n
    · rw [if_pos he, he, List.idxOf_cons_self, List.head?_eq_getElem?]
    · have hmem := (List.mem_cons.mp hname).resolve_left he
      have hindex : (n :: names).idxOf name = names.idxOf name + 1 := by
        rw [List.idxOf_cons, beq_eq_false_iff_ne.mpr (Ne.symm he)]
        rfl
      rw [if_neg he, hlookup name hmem, hindex, List.getElem?_tail]

/-- More items than there are slots are a fault. -/
theorem fillSlots_of_length_lt {names : List String} {items : List Value}
    (h : names.length < items.length) : fillSlots names (takenItems items) = none := by
  induction names generalizing items with
  | nil =>
    obtain ⟨v, rest, rfl⟩ := List.exists_cons_of_length_pos h
    rfl
  | cons n names ih =>
    cases items with
    | nil => exact absurd h (Nat.not_lt_zero _)
    | cons v items =>
      show (fillSlots names (takenItems items)).map _ = none
      rw [ih (Nat.lt_of_succ_lt_succ h)]
      rfl

/-- **An array is a record** with at least as many fields as it has items; the slots of the first fields
hold the items. -/
theorem Row.exists_of_array {names : List String} (apart : names.Nodup) {items : List Value}
    (h : items.length ≤ names.length) (room : Nat) :
    ∃ r : Row, (arr items).taken.row? names (room + 1) = some r ∧ r.room = room ∧
      ∀ name ∈ names, r.slot name = .ofValue .cut items[names.idxOf name]? := by
  obtain ⟨slots, hfill, hlookup⟩ := fillSlots_of_length_le apart h
  refine ⟨⟨slots, room⟩, ?_, rfl, ?_⟩
  · show (fillSlots names (takenItems items)).map _ = _
    rw [hfill]
    rfl
  · intro name hname
    unfold slot
    rw [hlookup name hname]
    rfl

/-- It is no record with fewer. -/
theorem row?_long {names : List String} {items : List Value} (h : names.length < items.length)
    (room : Nat) : (arr items).taken.row? names room = none := by
  cases room with
  | zero => rfl
  | succ room =>
    show (fillSlots names (takenItems items)).map _ = none
    rw [fillSlots_of_length_lt h]
    rfl

/-! ## Fields -/

/-- **A field for any value can be read** from a value that is not too deep, and from an empty slot. -/
theorem Row.orElse_value {r : Row} {name : String} {empty : FieldSlot} {v : Option Value}
    (hslot : r.slot name = .ofValue empty v) (hempty : ∀ d, empty ≠ .given d)
    (hroom : ∀ w ∈ v, w.depth ≤ r.room) :
    r.orElse name .null Decoder.value = some (v.getD .null).normal := by
  unfold orElse
  rw [hslot]
  cases v with
  | none =>
    cases empty with
    | given d => exact absurd rfl (hempty d)
    | missing => rfl
    | cut => rfl
  | some w => exact keep_taken w r.room (hroom w rfl)

end Shoreline.Json
