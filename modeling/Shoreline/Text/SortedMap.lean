/-!
# `Shoreline.Text.SortedMap` — finite maps from texts, in the order of their keys

Stored values, messages by field and sets of ids are all maps whose keys are texts and whose written
form lists the keys in order of code points. A `SortedMap` is the list of its entries, strictly
increasing by key, so equal maps are equal lists and the written form needs no sorting.

## Contents
- `insertEntry`, `eraseKey`: one pass over an entry list; a repeated key takes the new value.
- `SortedMap` with `get?`, `insert`, `erase`, `ofList`, `keys`; the equations `get?_insert` and
  `get?_erase`.
- `KeySet`: a set of texts, as a map to nothing.
-/

namespace Shoreline.Text

variable {α : Type}

/-! ## Entry lists -/

/-- Put an entry at its place by key; an entry with that key is replaced. -/
def insertEntry (k : String) (v : α) : List (String × α) → List (String × α)
  | [] => [(k, v)]
  | (k', v') :: rest =>
    if k < k' then (k, v) :: (k', v') :: rest
    else if k = k' then (k, v) :: rest
    else (k', v') :: insertEntry k v rest

/-- Drop the entries with the key `k`. -/
def eraseKey (k : String) (l : List (String × α)) : List (String × α) :=
  l.filter (fun e => e.1 != k)

/-- Entries in strictly increasing order of their keys. -/
def Ordered (l : List (String × α)) : Prop := l.Pairwise (fun a b => a.1 < b.1)

theorem mem_insertEntry {k : String} {v : α} {e : String × α} {l : List (String × α)}
    (h : e ∈ insertEntry k v l) : e = (k, v) ∨ e ∈ l := by
  induction l with
  | nil => simpa [insertEntry] using h
  | cons hd tl ih =>
    obtain ⟨k', v'⟩ := hd
    rw [insertEntry] at h
    split at h
    · simpa using h
    · split at h
      · rcases List.mem_cons.mp h with h | h
        · exact Or.inl h
        · exact Or.inr (List.mem_cons_of_mem _ h)
      · rcases List.mem_cons.mp h with h | h
        · exact Or.inr (by simp [h])
        · exact (ih h).imp id (List.mem_cons_of_mem _)

theorem ordered_insertEntry (k : String) (v : α) {l : List (String × α)} (h : Ordered l) :
    Ordered (insertEntry k v l) := by
  induction l with
  | nil => simp [insertEntry, Ordered]
  | cons hd tl ih =>
    obtain ⟨k', v'⟩ := hd
    have hhd : ∀ e ∈ tl, k' < e.1 := fun e he => List.rel_of_pairwise_cons h he
    have htl : Ordered tl := List.Pairwise.of_cons h
    rw [insertEntry]
    split
    · next hlt =>
      refine List.Pairwise.cons (fun e he => ?_) h
      rcases List.mem_cons.mp he with he | he
      · exact he ▸ hlt
      · exact String.lt_trans hlt (hhd e he)
    · next hnlt =>
      split
      · next heq =>
        subst heq
        exact List.Pairwise.cons hhd htl
      · next hne =>
        refine List.Pairwise.cons (fun e he => ?_) (ih htl)
        rcases mem_insertEntry he with he | he
        · subst he
          have hle : k' ≤ k := Std.not_lt.mp hnlt
          exact Std.lt_of_le_of_ne hle (Ne.symm hne)
        · exact hhd e he

theorem ordered_eraseKey (k : String) {l : List (String × α)} (h : Ordered l) :
    Ordered (eraseKey k l) :=
  List.Pairwise.filter _ h

/-! ## Maps -/

/-- A finite map from texts: its entries, in strictly increasing order of their keys. -/
structure SortedMap (α : Type) where
  /-- The entries, smallest key first. -/
  entries : List (String × α)
  /-- No key is out of order or repeated. -/
  ordered : Ordered entries

namespace SortedMap

/-- The map without entries. -/
def empty : SortedMap α := ⟨[], List.Pairwise.nil⟩

instance : Inhabited (SortedMap α) := ⟨empty⟩

/-- Equal entries make equal maps. -/
theorem ext_entries {m n : SortedMap α} (h : m.entries = n.entries) : m = n := by
  cases m; cases n; cases h; rfl

/-- The value at a key. -/
def get? (m : SortedMap α) (k : String) : Option α := m.entries.lookup k

/-- The map with `v` at `k`. -/
def insert (m : SortedMap α) (k : String) (v : α) : SortedMap α :=
  ⟨insertEntry k v m.entries, ordered_insertEntry k v m.ordered⟩

/-- The map without the key `k`. -/
def erase (m : SortedMap α) (k : String) : SortedMap α :=
  ⟨eraseKey k m.entries, ordered_eraseKey k m.ordered⟩

/-- The map of a list of entries; of two entries with one key the later counts. -/
def ofList (l : List (String × α)) : SortedMap α :=
  l.foldl (fun m e => m.insert e.1 e.2) empty

/-- Whether the key has a value. -/
def contains (m : SortedMap α) (k : String) : Bool := (m.get? k).isSome

/-- The keys, smallest first. -/
def keys (m : SortedMap α) : List String := m.entries.map (·.1)

/-- How many keys there are. -/
def size (m : SortedMap α) : Nat := m.entries.length

/-- Whether there are no keys. -/
def isEmpty (m : SortedMap α) : Bool := m.entries.isEmpty

@[simp] theorem get?_empty (k : String) : (empty : SortedMap α).get? k = none := rfl

theorem lookup_cons_ite (k k' : String) (v : α) (l : List (String × α)) :
    ((k, v) :: l).lookup k' = if k' = k then some v else l.lookup k' := by
  by_cases h : k' = k
  · subst h
    simp
  · simp [List.lookup_cons, beq_eq_false_iff_ne.mpr h, h]

theorem lookup_insertEntry (k k' : String) (v : α) (l : List (String × α)) :
    (insertEntry k v l).lookup k' = if k' = k then some v else l.lookup k' := by
  induction l with
  | nil => rw [insertEntry, lookup_cons_ite]
  | cons hd tl ih =>
    obtain ⟨a, b⟩ := hd
    rw [insertEntry]
    split
    · rw [lookup_cons_ite]
    · split
      · next heq =>
        subst heq
        rw [lookup_cons_ite, lookup_cons_ite]
        split <;> rfl
      · next hne =>
        rw [lookup_cons_ite, ih, lookup_cons_ite]
        split
        · next ha =>
          subst ha
          rw [if_neg (fun h => hne h.symm)]
        · rfl

/-- **Reading after a write**: the written key has the new value, every other key its old one. -/
theorem get?_insert (m : SortedMap α) (k k' : String) (v : α) :
    (m.insert k v).get? k' = if k' = k then some v else m.get? k' :=
  lookup_insertEntry k k' v m.entries

theorem lookup_eraseKey (k k' : String) (l : List (String × α)) :
    (eraseKey k l).lookup k' = if k' = k then none else l.lookup k' := by
  induction l with
  | nil => simp [eraseKey]
  | cons hd tl ih =>
    obtain ⟨a, b⟩ := hd
    unfold eraseKey at ih ⊢
    by_cases ha : a = k
    · subst ha
      rw [List.filter_cons_of_neg (by simp), ih, lookup_cons_ite]
      split <;> rfl
    · rw [List.filter_cons_of_pos (by simpa using ha), lookup_cons_ite, ih, lookup_cons_ite]
      by_cases h : k' = a
      · subst h
        simp [ha]
      · simp [h]

/-- **Reading after a removal**: the removed key has no value, every other key its old one. -/
theorem get?_erase (m : SortedMap α) (k k' : String) :
    (m.erase k).get? k' = if k' = k then none else m.get? k' :=
  lookup_eraseKey k k' m.entries

end SortedMap

/-! ## Sets of texts -/

/-- A set of texts. -/
abbrev KeySet := SortedMap Unit

namespace KeySet

/-- The set with one more member. -/
def add (s : KeySet) (k : String) : KeySet := s.insert k ()

/-- The set of the members of a list. -/
def ofKeys (l : List String) : KeySet := SortedMap.ofList (l.map (·, ()))

theorem contains_add (s : KeySet) (k k' : String) :
    (s.add k).contains k' = (k' == k || s.contains k') := by
  unfold SortedMap.contains add
  rw [SortedMap.get?_insert]
  by_cases h : k' = k <;> simp [h]

theorem contains_erase (s : KeySet) (k k' : String) :
    SortedMap.contains (s.erase k) k' = (k' != k && s.contains k') := by
  unfold SortedMap.contains
  rw [SortedMap.get?_erase]
  by_cases h : k' = k <;> simp [h]

end KeySet

end Shoreline.Text
