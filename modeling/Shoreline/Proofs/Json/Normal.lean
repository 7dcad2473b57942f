import Shoreline.Proofs.Json.Record
import Shoreline.Proofs.Text.KeySet

/-!
# `Shoreline.Proofs.Json.Normal` — values in normal form

Putting a value into normal form sorts the members of its objects and drops those that are hidden behind
a later one. Doing so again changes nothing, nothing stands deeper than before, and what stands at a
name in the normal form is the normal form of what stood there last.

## Contents
- `Value.nested`: induction over what stands directly in a value.
- `normal_obj`, `normal_normal`; `depthItems_le_iff`, `depthMembers_le_iff`, `depth_normal_le`.
- `Value.member`, `member_of_mem`, `get?_normalMap`: what stands at a name.
- `asText_normal`, `asString?_normal`, `isTruthy_normal`: questions that do not tell the two apart.
-/

namespace Shoreline.Json.Value

open Text

/-- Induction over values: an array has what everything in it has, and so has an object. -/
theorem nested {P : Value → Prop} (null : P null) (bool : ∀ b, P (bool b)) (num : ∀ n, P (num n))
    (str : ∀ s, P (str s)) (arr : ∀ items : List Value, (∀ v ∈ items, P v) → P (arr items))
    (obj : ∀ members : List (String × Value), (∀ e ∈ members, P e.2) → P (obj members))
    (v : Value) : P v :=
  match v with
  | .null => null
  | .bool b => bool b
  | .num n => num n
  | .str s => str s
  | .arr items => arr items fun v _ => nested null bool num str arr obj v
  | .obj members => obj members fun e _ => nested null bool num str arr obj e.2
termination_by sizeOf v
decreasing_by
  · next hv =>
    have hsmaller := List.sizeOf_lt_of_mem hv
    rw [Value.arr.sizeOf_spec]
    omega
  · next he =>
    have hsmaller := List.sizeOf_lt_of_mem he
    rw [Prod.mk.sizeOf_spec] at hsmaller
    rw [Value.obj.sizeOf_spec]
    omega

/-! ## Normal form -/

theorem normalItems_eq_map (items : List Value) : normalItems items = items.map normal := by
  induction items with
  | nil => rfl
  | cons v items ih => rw [normalItems, ih, List.map_cons]

/-- The map of the members of an object, each in normal form. -/
def normalMap (members : List (String × Value)) : SortedMap Value :=
  .ofList (members.map fun e => (e.1, e.2.normal))

/-- Members in normal form are put into a map one after the other. -/
theorem normalMembers_entries (members : List (String × Value)) (m : SortedMap Value) :
    normalMembers m.entries members =
      ((members.map fun e => (e.1, e.2.normal)).foldl (fun m e => m.insert e.1 e.2) m).entries := by
  induction members generalizing m with
  | nil => rfl
  | cons e members ih => exact ih (m.insert e.1 e.2.normal)

theorem normal_obj (members : List (String × Value)) :
    (obj members).normal = obj (normalMap members).entries :=
  congrArg obj (normalMembers_entries members .empty)

/-- Every member of the normal form is the normal form of a member. -/
theorem mem_normalMap {members : List (String × Value)} {e : String × Value}
    (h : e ∈ (normalMap members).entries) : ∃ v, (e.1, v) ∈ members ∧ e.2 = v.normal := by
  obtain ⟨d, hd, rfl⟩ := List.mem_map.mp (SortedMap.mem_of_mem_ofList h)
  exact ⟨d.2, hd, rfl⟩

/-- Members that are in normal form already make the map that they are. -/
theorem normalMap_entries {m : SortedMap Value} (h : ∀ e ∈ m.entries, e.2.normal = e.2) :
    normalMap m.entries = m := by
  have hsame : m.entries.map (fun e => (e.1, e.2.normal)) = m.entries := by
    refine (List.map_congr_left fun e he => ?_).trans (List.map_id _)
    exact Prod.ext rfl (h e he)
  unfold normalMap
  rw [hsame]
  exact SortedMap.ofList_entries m

/-- **A normal form is its own normal form.** -/
theorem normal_normal (v : Value) : v.normal.normal = v.normal := by
  induction v using nested with
  | null => rfl
  | bool b => rfl
  | num n => rfl
  | str s => rfl
  | arr items ih =>
    have hitems : (items.map normal).map normal = items.map normal := by
      rw [List.map_map]
      exact List.map_congr_left ih
    rw [normal, normal, normalItems_eq_map, normalItems_eq_map, hitems]
  | obj members ih =>
    rw [normal_obj, normal_obj, normalMap_entries]
    intro e he
    obtain ⟨v, hv, hnormal⟩ := mem_normalMap he
    rw [hnormal]
    exact ih (e.1, v) hv

/-! ## Depth -/

theorem depthItems_le_iff {items : List Value} {n : Nat} :
    depthItems items ≤ n ↔ ∀ v ∈ items, v.depth ≤ n := by
  induction items with
  | nil => simp [depthItems]
  | cons v items ih => rw [depthItems, Nat.max_le, ih, List.forall_mem_cons]

theorem depthMembers_le_iff {members : List (String × Value)} {n : Nat} :
    depthMembers members ≤ n ↔ ∀ e ∈ members, e.2.depth ≤ n := by
  induction members with
  | nil => simp [depthMembers]
  | cons e members ih => rw [depthMembers, Nat.max_le, ih, List.forall_mem_cons]

/-- Nothing stands deeper in the normal form. -/
theorem depth_normal_le (v : Value) : v.normal.depth ≤ v.depth := by
  induction v using nested with
  | null => exact Nat.le_refl _
  | bool b => exact Nat.le_refl _
  | num n => exact Nat.le_refl _
  | str s => exact Nat.le_refl _
  | arr items ih =>
    rw [normal, depth, depth, normalItems_eq_map]
    refine Nat.succ_le_succ (depthItems_le_iff.mpr fun w hw => ?_)
    obtain ⟨v, hv, rfl⟩ := List.mem_map.mp hw
    exact Nat.le_trans (ih v hv) (depthItems_le_iff.mp (Nat.le_refl _) v hv)
  | obj members ih =>
    rw [normal_obj, depth, depth]
    refine Nat.succ_le_succ (depthMembers_le_iff.mpr fun e he => ?_)
    obtain ⟨v, hv, hnormal⟩ := mem_normalMap he
    rw [hnormal]
    exact Nat.le_trans (ih (e.1, v) hv) (depthMembers_le_iff.mp (Nat.le_refl _) (e.1, v) hv)

/-! ## What stands at a name -/

/-- The value of the member with a name: of several the last, and null if there is none. -/
def member (members : List (String × Value)) (name : String) : Value :=
  ((SortedMap.ofList members).get? name).getD null

/-- A member with a name that no other has is what stands there. -/
theorem member_of_mem {members : List (String × Value)} (apart : (members.map Prod.fst).Nodup)
    {name : String} {v : Value} (h : (name, v) ∈ members) : member members name = v := by
  unfold member
  rw [SortedMap.get?_ofList apart, SortedMap.lookup_of_mem apart h]
  rfl

/-- At a name that no member has stands null. -/
theorem member_of_not_mem {members : List (String × Value)} (apart : (members.map Prod.fst).Nodup)
    {name : String} (h : name ∉ members.map Prod.fst) : member members name = null := by
  have hnone : members.lookup name = none := by
    refine List.lookup_eq_none_iff.mpr fun e he => ?_
    have hne : name ≠ e.1 := fun heq => h (heq ▸ List.mem_map_of_mem he)
    simpa using hne
  unfold member
  rw [SortedMap.get?_ofList apart, hnone]
  rfl

/-- **At a name of the normal form stands the normal form of what stood there.** -/
theorem get?_normalMap (members : List (String × Value)) (name : String) :
    (normalMap members).get? name = ((SortedMap.ofList members).get? name).map normal :=
  SortedMap.get?_ofList_map normal members name

/-! ## Questions about a value -/

@[simp] theorem asText_normal (v : Value) : v.normal.asText = v.asText := by
  cases v with
  | arr items => exact congrArg compact (normal_normal (.arr items))
  | obj members => exact congrArg compact (normal_normal (.obj members))
  | _ => rfl

@[simp] theorem asString?_normal (v : Value) : v.normal.asString? = v.asString? := by
  cases v <;> rfl

@[simp] theorem isTruthy_normal (v : Value) : v.normal.isTruthy = v.isTruthy := by
  cases v <;> rfl

end Shoreline.Json.Value
