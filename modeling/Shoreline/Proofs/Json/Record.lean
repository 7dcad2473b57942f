import Mathlib.Algebra.Group.Nat.Defs
import Shoreline.Proofs.Json.RoundTrip

/-!
# `Shoreline.Proofs.Json.Record` — records that were written are read back

A record is written as an object with one member for each field, and a decoder of the record reads it
through a row. If the fields have different names, the slot of each field holds what was written for it.
A list of records is written item by item and read item by item.

## Contents
- `findMember_taken`, `row?_taken`: the row of an object that was written.
- `Row.exists_of_members`, `Row.required_of`, `Row.orElse_of`: reading a slot.
- `Decoder.named_str`, `Decoder.nullable_optionStr`, `Decoder.word32_int`, `Decoder.int64_int`: fields.
- `Decoder.list_taken`, `Decoder.of_list`: lists.
-/

namespace Shoreline.Json

open Value

theorem takenMembers_eq_map (members : List (String × Value)) :
    takenMembers members = members.map fun m => (some m.1, m.2.taken) := by
  induction members with
  | nil => rfl
  | cons m members ih => rw [takenMembers, ih, List.map_cons]

theorem takenItems_eq_map (items : List Value) : takenItems items = items.map taken := by
  induction items with
  | nil => rfl
  | cons v items ih => rw [takenItems, ih, List.map_cons]

/-! ## Rows -/

/-- Of members with different names, just one has the name of a field. -/
theorem findMember_taken {members : List (String × Value)} (nodup : (members.map Prod.fst).Nodup)
    {name : String} {v : Value} (h : (name, v) ∈ members) :
    findMember name (takenMembers members) = some (.given v.taken) := by
  have hone : (takenMembers members).filter (fun m => m.1 == some name) = [(some name, v.taken)] := by
    rw [takenMembers_eq_map]
    induction members with
    | nil => cases h
    | cons m members ih =>
      rw [List.map_cons, List.nodup_cons] at nodup
      rcases List.mem_cons.mp h with rfl | hrest
      · -- the others have other names
        have hothers : (members.map fun m => (some m.1, m.2.taken)).filter
            (fun m => m.1 == some name) = [] := by
          refine List.filter_eq_nil_iff.mpr fun d hd => ?_
          obtain ⟨m, hm, rfl⟩ := List.mem_map.mp hd
          have hne : m.1 ≠ name := fun he => nodup.1 (List.mem_map.mpr ⟨m, hm, he⟩)
          simpa using hne
        rw [List.map_cons, List.filter_cons_of_pos (by simp), hothers]
      · have hne : m.1 ≠ name := fun he => nodup.1 (List.mem_map.mpr ⟨(name, v), hrest, he.symm⟩)
        rw [List.map_cons, List.filter_cons_of_neg (by simpa using hne)]
        exact ih nodup.2 hrest
  unfold findMember
  rw [hone]

/-- **The row of an object that was written**: each field has what was written for it. -/
theorem row?_taken {members : List (String × Value)} (nodup : (members.map Prod.fst).Nodup)
    (room : Nat) :
    (obj members).taken.row? (members.map Prod.fst) (room + 1) =
      some ⟨members.map fun m => (m.1, .given m.2.taken), room⟩ := by
  have hnames : (takenMembers members).any (·.1.isNone) = false := by
    rw [takenMembers_eq_map, List.any_map]
    simp
  have hslots : ∀ l : List (String × Value), (∀ m ∈ l, m ∈ members) →
      ((l.map Prod.fst).mapM (m := Option) fun name =>
        (findMember name (takenMembers members)).map (name, ·)) =
      some (l.map fun m => (m.1, .given m.2.taken)) := by
    intro l hl
    induction l with
    | nil => rfl
    | cons m l ih =>
      have hm := findMember_taken nodup (hl m List.mem_cons_self)
      have hrest := ih fun k hk => hl k (List.mem_cons_of_mem m hk)
      rw [List.map_cons, List.mapM_cons, hm, hrest]
      rfl
  show Document.row? _ _ (.obj (takenMembers members)) = _
  have hall := hslots members fun _ hm => hm
  simp only [Document.row?, hnames, Bool.false_eq_true, if_false, hall, Option.map_some]

namespace Row

variable {α : Type}

/-- The slot of a field in that row. -/
theorem slot_taken {members : List (String × Value)} (nodup : (members.map Prod.fst).Nodup)
    {name : String} {v : Value} (h : (name, v) ∈ members) (room : Nat) :
    slot ⟨members.map fun m => (m.1, .given m.2.taken), room⟩ name = .given v.taken := by
  have hlookup : (members.map fun m => (m.1, FieldSlot.given m.2.taken)).lookup name =
      some (.given v.taken) := by
    induction members with
    | nil => cases h
    | cons m members ih =>
      rw [List.map_cons, List.nodup_cons] at nodup
      rw [List.map_cons, List.lookup_cons]
      rcases List.mem_cons.mp h with rfl | hrest
      · rw [beq_self_eq_true]
      · have hne : name ≠ m.1 := fun he => nodup.1 (List.mem_map.mpr ⟨(name, v), hrest, he⟩)
        rw [beq_eq_false_iff_ne.mpr hne]
        exact ih nodup.2 hrest
  unfold slot
  rw [hlookup]
  rfl

/-- **A record that was written has a row**, and the slot of each field holds what was written for it. -/
theorem exists_of_members {members : List (String × Value)} (nodup : (members.map Prod.fst).Nodup)
    (room : Nat) :
    ∃ r : Row, (obj members).taken.row? (members.map Prod.fst) (room + 1) = some r ∧ r.room = room ∧
      ∀ name v, (name, v) ∈ members → r.slot name = .given v.taken :=
  ⟨_, row?_taken nodup room, rfl, fun _ _ h => slot_taken nodup h room⟩

/-- A slot with a document in it is read as a field that must be there. -/
theorem required_of {r : Row} {name : String} {doc : Document} {d : Decoder α} {a : α}
    (h : r.slot name = .given doc) (hread : d r.room doc = some a) : r.required name d = some a := by
  unfold required
  rw [h]
  exact hread

/-- And so is a field with a default. -/
theorem orElse_of {r : Row} {name : String} {doc : Document} {d : Decoder α} {a : α}
    (h : r.slot name = .given doc) (default : α) (hread : d r.room doc = some a) :
    r.orElse name default d = some a := by
  unfold orElse
  rw [h]
  exact hread

/-- A field that was read was read from a document. -/
theorem of_required {r : Row} {name : String} {d : Decoder α} {a : α}
    (h : r.required name d = some a) : ∃ doc, d r.room doc = some a := by
  unfold required at h
  split at h
  · next doc _ => exact ⟨doc, h⟩
  · cases h

end Row

/-! ## Fields -/

/-- The whole numbers that 64 bits hold with a sign. -/
def IsInt64 (i : Int) : Prop := -(2 ^ 63) ≤ i ∧ i < 2 ^ 63

namespace Decoder

theorem named_str {α : Type} (meaning : String → Option α) (room : Nat) (s : String) :
    named meaning room (Value.str s).taken = meaning s := rfl

theorem oneOf_str {α : Type} (meaning : String → Option α) (room : Nat) (s : String) :
    oneOf meaning room (Value.str s).taken = meaning s := by
  cases room <;> rfl

/-- A text that may be missing is written as null then. -/
theorem nullable_optionStr (room : Nat) (o : Option String) :
    text.nullable room (Value.optionStr o).taken = some o := by
  cases o <;> rfl

/-- A natural number of 32 bits. -/
theorem word32_int {n : Nat} (h : n < 2 ^ 32) (room : Nat) :
    word32 room (Value.int n).taken = some n := by
  have hbounds : (0 : Int) ≤ n ∧ (n : Int) ≤ 2 ^ 32 - 1 := by omega
  show (if (0 : Int) ≤ n ∧ (n : Int) ≤ 2 ^ 32 - 1 then some (n : Int) else none).map Int.toNat = _
  rw [if_pos hbounds]
  rfl

/-- A whole number that was read lies between the bounds. -/
theorem whole_bounds {least greatest i : Int} {room : Nat} {doc : Document}
    (h : whole least greatest room doc = some i) : least ≤ i ∧ i ≤ greatest := by
  unfold whole at h
  split at h
  · split at h
    · next hbounds =>
      rw [← Option.some.inj h]
      exact hbounds
    · cases h
  · cases h

theorem word32_lt {n : Nat} {room : Nat} {doc : Document} (h : word32 room doc = some n) :
    n < 2 ^ 32 := by
  obtain ⟨i, hi, hn⟩ := Option.map_eq_some_iff.mp h
  have hbounds := whole_bounds hi
  omega

/-- A whole number of 64 bits with sign. -/
theorem int64_int {i : Int} (h : IsInt64 i) (room : Nat) :
    int64 room (Value.int i).taken = some i := by
  obtain ⟨hleast, hgreatest⟩ := h
  have hbounds : -0x8000000000000000 ≤ i ∧ i ≤ 0x7FFFFFFFFFFFFFFF := by omega
  exact if_pos hbounds

theorem isInt64_of_int64 {i : Int} {room : Nat} {doc : Document} (h : int64 room doc = some i) :
    IsInt64 i := by
  have hbounds := whole_bounds h
  unfold IsInt64
  omega

end Decoder

/-! ## Lists -/

/-- **A list that was written is read back**, if each of its members is. -/
theorem Decoder.list_taken {α : Type} {d : Decoder α} {f : α → Value} {room : Nat} {l : List α}
    (h : ∀ a ∈ l, d room (f a).taken = some a) :
    Decoder.list d (room + 1) (Value.list f l).taken = some l := by
  show (takenItems (l.map f)).mapM (d room) = some l
  rw [takenItems_eq_map]
  induction l with
  | nil => rfl
  | cons a l ih =>
    have hrest := ih fun b hb => h b (List.mem_cons_of_mem a hb)
    rw [List.map_cons, List.map_cons, List.mapM_cons, h a List.mem_cons_self, hrest]
    rfl

/-- Each member of a list that was read was read by itself. -/
theorem Decoder.of_list {α : Type} {d : Decoder α} {room : Nat} {doc : Document} {l : List α}
    (h : Decoder.list d (room + 1) doc = some l) : ∀ a ∈ l, ∃ item, d room item = some a := by
  cases doc with
  | arr items =>
    have hmap : items.mapM (d room) = some l := h
    clear h
    induction items generalizing l with
    | nil =>
      rw [← Option.some.inj hmap]
      intro a ha
      exact absurd ha List.not_mem_nil
    | cons item items ih =>
      rw [List.mapM_cons] at hmap
      obtain ⟨b, hb, hmap⟩ := Option.bind_eq_some_iff.mp hmap
      obtain ⟨rest, hrest, hl⟩ := Option.bind_eq_some_iff.mp hmap
      rw [← Option.some.inj hl]
      intro a ha
      rcases List.mem_cons.mp ha with rfl | hmem
      · exact ⟨item, hb⟩
      · exact ih hrest a hmem
  | _ => cases h

theorem Value.exactItems_map {α : Type} {f : α → Value} {l : List α} (h : ∀ a ∈ l, (f a).Exact) :
    ExactItems (l.map f) := by
  induction l with
  | nil => trivial
  | cons a l ih =>
    exact ⟨h a List.mem_cons_self, ih fun b hb => h b (List.mem_cons_of_mem a hb)⟩

end Shoreline.Json
