import Shoreline.Text.SortedMap

/-!
# `Shoreline.Proofs.Text.KeySet` — maps and sets are their members

A sorted map is fixed by the values at its keys, and a set by its members. So two sets can be compared
member by member, and the sorted list of its members makes the set again.

## Contents
- `SortedMap.nodup_keys`, `SortedMap.mem_entries_iff`, `SortedMap.ext_get?`.
- `SortedMap.get?_ofList`, `SortedMap.ofList_entries`, `SortedMap.mem_of_mem_ofList`,
  `SortedMap.get?_ofList_map`, `SortedMap.isEmpty_iff`: maps made of lists.
- `KeySet.ext_contains`, `contains_ofKeys`, `mem_keys`, `keys_rising`, `ofKeys_keys`, `ofKeys_eq_iff`.
- `KeySet.size_add`: a new member makes a set larger by one.
-/

namespace Shoreline.Text

variable {α : Type}

namespace SortedMap

/-- The value at a key stands beside it. -/
theorem mem_of_lookup {k : String} {v : α} {l : List (String × α)} (h : l.lookup k = some v) :
    (k, v) ∈ l := by
  induction l with
  | nil => cases h
  | cons hd tl ih =>
    obtain ⟨k', v'⟩ := hd
    rw [lookup_cons_ite] at h
    split at h
    · next he =>
      obtain rfl := Option.some.inj h
      rw [he]
      exact List.mem_cons_self
    · exact List.mem_cons_of_mem _ (ih h)

/-- Where keys are apart, no entry hides another. -/
theorem lookup_of_mem {k : String} {v : α} {l : List (String × α)} (apart : (l.map Prod.fst).Nodup)
    (h : (k, v) ∈ l) : l.lookup k = some v := by
  induction l with
  | nil => cases h
  | cons hd tl ih =>
    obtain ⟨k', v'⟩ := hd
    rw [List.map_cons, List.nodup_cons] at apart
    rw [lookup_cons_ite]
    rcases List.mem_cons.mp h with he | hmem
    · cases he
      rw [if_pos rfl]
    · have hne : k ≠ k' := by
        rintro rfl
        exact apart.1 (List.mem_map.mpr ⟨(k, v), hmem, rfl⟩)
      rw [if_neg hne]
      exact ih apart.2 hmem

/-- No key of a map is repeated. -/
theorem nodup_keys (m : SortedMap α) : m.keys.Nodup := by
  refine List.pairwise_map.mpr (m.ordered.imp ?_)
  intro a b hlt heq
  exact String.lt_irrefl a.1 (heq ▸ hlt)

theorem mem_entries_iff (m : SortedMap α) (k : String) (v : α) :
    (k, v) ∈ m.entries ↔ m.get? k = some v :=
  ⟨lookup_of_mem m.nodup_keys, mem_of_lookup⟩

theorem nodup_entries (m : SortedMap α) : m.entries.Nodup := by
  refine List.Pairwise.imp ?_ m.ordered
  rintro a _ hlt rfl
  exact String.lt_irrefl a.1 hlt

/-- **A map is fixed by the values at its keys.** -/
theorem ext_get? {m n : SortedMap α} (h : ∀ k, m.get? k = n.get? k) : m = n := by
  have hmem : ∀ e, e ∈ m.entries ↔ e ∈ n.entries := by
    rintro ⟨k, v⟩
    rw [mem_entries_iff, mem_entries_iff, h]
  -- two lists in the same strict order that have the same members are the same list
  have hperm : m.entries.Perm n.entries :=
    (List.perm_ext_iff_of_nodup m.nodup_entries n.nodup_entries).mpr hmem
  refine ext_entries (hperm.eq_of_pairwise ?_ m.ordered n.ordered)
  intro a b _ _ hab hba
  exact absurd hba (String.lt_asymm hab)

/-! ### Maps made of lists -/

/-- The value at a key of a list of entries is the one there, or the one that was there before. -/
theorem get?_foldl_insert {l : List (String × α)} (apart : (l.map Prod.fst).Nodup) (m : SortedMap α)
    (k : String) : (l.foldl (fun m e => m.insert e.1 e.2) m).get? k = (l.lookup k).or (m.get? k) := by
  induction l generalizing m with
  | nil => rfl
  | cons e l ih =>
    obtain ⟨k', v⟩ := e
    rw [List.map_cons, List.nodup_cons] at apart
    rw [List.foldl_cons, ih apart.2, get?_insert, lookup_cons_ite]
    by_cases hk : k = k'
    · -- the key does not come again
      have hlast : l.lookup k = none := by
        cases hl : l.lookup k with
        | none => rfl
        | some u => exact absurd (List.mem_map.mpr ⟨(k, u), mem_of_lookup hl, hk⟩) apart.1
      rw [hlast, if_pos hk, if_pos hk]
      rfl
    · rw [if_neg hk, if_neg hk]

/-- **A list of entries whose keys are apart makes the map of just those.** -/
theorem get?_ofList {l : List (String × α)} (apart : (l.map Prod.fst).Nodup) (k : String) :
    (ofList l).get? k = l.lookup k := by
  unfold ofList
  rw [get?_foldl_insert apart]
  exact Option.or_none

/-- **The map of the entries of a map is that map.** -/
theorem ofList_entries (m : SortedMap α) : ofList m.entries = m := by
  apply ext_get?
  intro k
  exact get?_ofList m.nodup_keys k

theorem mem_foldl_insert {l : List (String × α)} {m : SortedMap α} {e : String × α}
    (h : e ∈ (l.foldl (fun m e => m.insert e.1 e.2) m).entries) : e ∈ m.entries ∨ e ∈ l := by
  induction l generalizing m with
  | nil => exact .inl h
  | cons d l ih =>
    rcases ih h with hplaced | hlater
    · rcases mem_insertEntry hplaced with rfl | hbefore
      · exact .inr List.mem_cons_self
      · exact .inl hbefore
    · exact .inr (List.mem_cons_of_mem d hlater)

/-- Every entry of the map of a list stands in the list. -/
theorem mem_of_mem_ofList {l : List (String × α)} {e : String × α} (h : e ∈ (ofList l).entries) : e ∈ l :=
  (mem_foldl_insert h).resolve_left List.not_mem_nil

theorem get?_foldl_insert_map {β : Type} (f : α → β) (l : List (String × α)) {m : SortedMap α}
    {n : SortedMap β} (h : ∀ k, n.get? k = (m.get? k).map f) (k : String) :
    ((l.map fun e => (e.1, f e.2)).foldl (fun n e => n.insert e.1 e.2) n).get? k =
      ((l.foldl (fun m e => m.insert e.1 e.2) m).get? k).map f := by
  induction l generalizing m n with
  | nil => exact h k
  | cons e l ih =>
    refine ih fun k' => ?_
    rw [get?_insert, get?_insert, h]
    split <;> rfl

/-- **It makes no difference whether values are changed before the map is made or after.** -/
theorem get?_ofList_map {β : Type} (f : α → β) (l : List (String × α)) (k : String) :
    (ofList (l.map fun e => (e.1, f e.2))).get? k = ((ofList l).get? k).map f :=
  get?_foldl_insert_map f l (fun _ => rfl) k

/-- A map is empty if it has a value at no key. -/
theorem isEmpty_iff (m : SortedMap α) : m.isEmpty = true ↔ ∀ k, m.get? k = none := by
  unfold isEmpty
  rw [List.isEmpty_iff]
  constructor
  · intro h k
    unfold get?
    rw [h]
    rfl
  · intro h
    refine List.eq_nil_iff_forall_not_mem.mpr ?_
    rintro ⟨k, v⟩ hmem
    rw [mem_entries_iff, h k] at hmem
    cases hmem

end SortedMap

namespace KeySet

theorem get?_eq_of_contains {s t : KeySet} {k : String} (h : s.contains k = t.contains k) :
    s.get? k = t.get? k := by
  unfold SortedMap.contains at h
  cases hs : s.get? k with
  | none =>
    rw [hs] at h
    exact (Option.isSome_eq_false_iff.mp h.symm |> Option.isNone_iff_eq_none.mp).symm
  | some u =>
    rw [hs] at h
    obtain ⟨v, hv⟩ := Option.isSome_iff_exists.mp h.symm
    rw [hv]

/-- **A set is fixed by its members.** -/
theorem ext_contains {s t : KeySet} (h : ∀ k, s.contains k = t.contains k) : s = t :=
  SortedMap.ext_get? fun k => get?_eq_of_contains (h k)

theorem mem_keys {s : KeySet} {k : String} : k ∈ s.keys ↔ s.contains k = true := by
  unfold SortedMap.keys SortedMap.contains
  rw [List.mem_map, Option.isSome_iff_exists]
  constructor
  · rintro ⟨⟨_, u⟩, hmem, rfl⟩
    exact ⟨u, (SortedMap.mem_entries_iff s _ u).mp hmem⟩
  · rintro ⟨u, hu⟩
    exact ⟨(k, u), (SortedMap.mem_entries_iff s k u).mpr hu, rfl⟩

/-- The members stand in strictly rising order, so none is repeated. -/
theorem keys_rising (s : KeySet) : s.keys.Pairwise (· < ·) :=
  List.pairwise_map.mpr s.ordered

/-- **A new member makes a set larger by one.** -/
theorem size_add {s : KeySet} {k : String} (h : s.contains k = false) : (s.add k).size = s.size + 1 := by
  have hnew : k ∉ s.keys := by simp [mem_keys, h]
  have hkeys : (s.add k).keys.Perm (k :: s.keys) := by
    apply (List.perm_ext_iff_of_nodup (s.add k).nodup_keys (List.nodup_cons.mpr ⟨hnew, s.nodup_keys⟩)).mpr
    intro k'
    simp [mem_keys, contains_add]
  simpa [SortedMap.keys, SortedMap.size] using hkeys.length_eq

theorem contains_foldl_add (l : List String) (s : KeySet) (k : String) :
    (l.foldl KeySet.add s).contains k = (l.contains k || s.contains k) := by
  induction l generalizing s with
  | nil => simp
  | cons a l ih =>
    rw [List.foldl_cons, ih, contains_add, List.contains_cons]
    cases l.contains k <;> cases k == a <;> simp

/-- The set of a list has its members. -/
theorem contains_ofKeys (l : List String) (k : String) : (ofKeys l).contains k = l.contains k := by
  have hfold : ofKeys l = l.foldl KeySet.add SortedMap.empty := by
    unfold ofKeys SortedMap.ofList
    rw [List.foldl_map]
    rfl
  rw [hfold, contains_foldl_add]
  simp [SortedMap.contains]

/-- **The members of a set make it again.** -/
theorem ofKeys_keys (s : KeySet) : ofKeys s.keys = s := by
  apply ext_contains
  intro k
  rw [contains_ofKeys, Bool.eq_iff_iff, List.contains_iff_mem, mem_keys]

/-- A set is that of a list exactly if they have the same members. -/
theorem ofKeys_eq_iff {l : List String} {s : KeySet} :
    ofKeys l = s ↔ ∀ k, k ∈ l ↔ s.contains k = true := by
  constructor
  · rintro rfl k
    rw [contains_ofKeys, List.contains_iff_mem]
  · intro h
    apply ext_contains
    intro k
    rw [contains_ofKeys, Bool.eq_iff_iff, List.contains_iff_mem]
    exact h k

end KeySet

end Shoreline.Text
