import Mathlib.Data.List.Basic
import Shoreline.Beach.Filter
import Shoreline.Proofs.Text.KeySet

/-!
# `Shoreline.Proofs.Beach.Passing` — which beaches are shown, and in which order

A filter takes a list of beaches through three stages and sorts what is left by the place of its codes in
the list of a tag. What comes of it can be said without any sorting: the beaches that pass, code by code in
the order of the tag, and those with one code in the order they had. For this the sorting must be stable,
and no code may stand twice in the list of a tag.

Sorting is looked at block by block. Members with the same key keep their order
(`filter_mergeSort`), and a list in the order of its keys is the blocks of its keys one after the other
(`eq_flatMap_of_pairwise`).

## Contents
- `byPlace`; `filter_mergeSort`, `eq_flatMap_of_pairwise`, `mergeSort_eq_flatMap`; `filter_eq_of_perm`.
- `Filter.Passes`, `Filter.admits_iff`; `apply_eq_mergeSort`, `apply_of_tag`, `apply_perm`.
- `Filter.shown_beaches`, with a list in which codes and beaches are repeated.
- `Filter.Settled`, `settled_apply`, `apply_of_settled`; `Filter.filtering_again`.
-/

namespace Shoreline

open Text

/-! ## Sorting by place -/

section ByPlace

variable {α : Type} (key : α → String) (order : List String)

/-- The key of the one stands in front of that of the other in a list of keys, or they are the same. -/
def byPlace (a b : α) : Bool := order.idxOf (key a) ≤ order.idxOf (key b)

theorem byPlace_trans (a b c : α) (hab : byPlace key order a b = true)
    (hbc : byPlace key order b c = true) : byPlace key order a c = true :=
  decide_eq_true (Nat.le_trans (of_decide_eq_true hab) (of_decide_eq_true hbc))

theorem byPlace_total (a b : α) : (byPlace key order a b || byPlace key order b a) = true := by
  rw [Bool.or_eq_true]
  exact (Nat.le_total (order.idxOf (key a)) (order.idxOf (key b))).imp decide_eq_true decide_eq_true

/-- In front of a member with the first key there are only members with that key. -/
theorem eq_of_byPlace_cons {k : String} {a b : α} (h : byPlace key (k :: order) a b = true)
    (hb : key b = k) : key a = k := by
  have hle : (k :: order).idxOf (key a) ≤ (k :: order).idxOf (key b) := of_decide_eq_true h
  rw [hb, List.idxOf_cons_self] at hle
  by_cases hak : k = key a
  · exact hak.symm
  · rw [List.idxOf_cons_ne _ hak] at hle
    exact absurd hle (Nat.not_succ_le_zero _)

/-- For members with other keys the first does not count. -/
theorem byPlace_of_cons {k : String} {a b : α} (ha : key a ≠ k) (hb : key b ≠ k)
    (h : byPlace key (k :: order) a b = true) : byPlace key order a b = true := by
  have hle : (k :: order).idxOf (key a) ≤ (k :: order).idxOf (key b) := of_decide_eq_true h
  rw [List.idxOf_cons_ne _ ha.symm, List.idxOf_cons_ne _ hb.symm] at hle
  exact decide_eq_true (Nat.le_of_succ_le_succ hle)

/-- **Sorting keeps the order of members with the same key.** -/
theorem filter_mergeSort (l : List α) (k : String) :
    (l.mergeSort (byPlace key order)).filter (key · == k) = l.filter (key · == k) := by
  -- the block of a key is in order already, so it is found among the sorted members
  have hblock : (l.filter (key · == k)).Pairwise fun a b => byPlace key order a b = true := by
    refine List.pairwise_of_forall_mem_list fun a ha b hb => decide_eq_true ?_
    have hsame : key a = key b :=
      (eq_of_beq (List.mem_filter.mp ha).2).trans (eq_of_beq (List.mem_filter.mp hb).2).symm
    exact Nat.le_of_eq (congrArg order.idxOf hsame)
  have hfound : (l.filter (key · == k)).Sublist
      ((l.mergeSort (byPlace key order)).filter (key · == k)) := by
    have hsub := List.sublist_mergeSort (byPlace_trans key order) (byPlace_total key order) hblock
      List.filter_sublist
    simpa using hsub.filter (key · == k)
  have hlength : ((l.mergeSort (byPlace key order)).filter (key · == k)).length =
      (l.filter (key · == k)).length :=
    ((List.mergeSort_perm l _).filter _).length_eq
  exact (hfound.eq_of_length hlength.symm).symm

variable {key order}

/-- A list whose members of a class stand in front is the class and then the rest. -/
theorem eq_filter_append {p : α → Bool} {l : List α}
    (h : l.Pairwise fun a b => p b = true → p a = true) : l = l.filter p ++ l.filter (! p ·) := by
  induction l with
  | nil => rfl
  | cons a l ih =>
    obtain ⟨hfirst, hrest⟩ := List.pairwise_cons.mp h
    by_cases ha : p a = true
    · rw [List.filter_cons_of_pos ha, List.filter_cons_of_neg (by simp [ha]), List.cons_append,
        ← ih hrest]
    · have hnone : ∀ b ∈ a :: l, ¬ p b = true := by
        intro b hb
        rcases List.mem_cons.mp hb with rfl | hb
        · exact ha
        · exact fun hpb => ha (hfirst b hb hpb)
      rw [List.filter_eq_nil_iff.mpr hnone, List.nil_append]
      exact (List.filter_eq_self.mpr fun b hb => by simpa using hnone b hb).symm

/-- **A list in the order of its keys is one block after the other.** -/
theorem eq_flatMap_of_pairwise (nodup : order.Nodup) {l : List α} (known : ∀ a ∈ l, key a ∈ order)
    (sorted : l.Pairwise fun a b => byPlace key order a b = true) :
    l = order.flatMap fun k => l.filter (key · == k) := by
  -- by induction on the keys: the block of the first stands in front, and the rest is in order
  induction order generalizing l with
  | nil =>
    cases l with
    | nil => rfl
    | cons a l => exact absurd (known a List.mem_cons_self) List.not_mem_nil
  | cons k order ih =>
    obtain ⟨hk, hnodup⟩ := List.nodup_cons.mp nodup
    have hsplit : l = l.filter (key · == k) ++ l.filter (! key · == k) := by
      refine eq_filter_append (sorted.imp fun {a b} hab hb => beq_iff_eq.mpr ?_)
      exact eq_of_byPlace_cons key order hab (eq_of_beq hb)
    have hother : ∀ a ∈ l.filter (! key · == k), a ∈ l ∧ key a ≠ k := by
      intro a ha
      obtain ⟨hmem, hne⟩ := List.mem_filter.mp ha
      exact ⟨hmem, by simpa using hne⟩
    have hrest := ih hnodup (l := l.filter (! key · == k))
      (fun a ha => (List.mem_cons.mp (known a (hother a ha).1)).resolve_left (hother a ha).2)
      ((sorted.filter _).imp_of_mem fun {a b} ha hb hab =>
        byPlace_of_cons key order (hother a ha).2 (hother b hb).2 hab)
    -- the block of another key loses nothing with the block of the first
    have hblocks : ∀ j ∈ order, (l.filter (! key · == k)).filter (key · == j) = l.filter (key · == j) := by
      intro j hj
      have hjk : j ≠ k := fun he => hk (he ▸ hj)
      rw [List.filter_filter]
      refine List.filter_congr fun a _ => ?_
      by_cases haj : key a = j
      · simp [haj, hjk]
      · simp [haj]
    rw [List.flatMap_congr hblocks] at hrest
    rw [List.flatMap_cons, ← hrest]
    exact hsplit

/-- **Sorting by place puts one block after the other**, each in the order it had. -/
theorem mergeSort_eq_flatMap (nodup : order.Nodup) {l : List α} (known : ∀ a ∈ l, key a ∈ order) :
    l.mergeSort (byPlace key order) = order.flatMap fun k => l.filter (key · == k) := by
  have hsorted := List.pairwise_mergeSort (byPlace_trans key order) (byPlace_total key order) l
  have hknown : ∀ a ∈ l.mergeSort (byPlace key order), key a ∈ order := fun a ha =>
    known a (List.mem_mergeSort.mp ha)
  rw [eq_flatMap_of_pairwise nodup hknown hsorted]
  exact List.flatMap_congr fun k _ => filter_mergeSort key order l k

/-- **Where no key is repeated, the order of the list does not show in its blocks.** -/
theorem filter_eq_of_perm {l permuted : List α} (nodup : (l.map key).Nodup) (h : l.Perm permuted)
    (k : String) : permuted.filter (key · == k) = l.filter (key · == k) := by
  have hperm : (permuted.filter (key · == k)).Perm (l.filter (key · == k)) := (h.filter _).symm
  have hkeys : ∀ a ∈ l.filter (key · == k), key a = k := fun a ha => eq_of_beq (List.mem_filter.mp ha).2
  have hnodup : ((l.filter (key · == k)).map key).Nodup := nodup.sublist (List.filter_sublist.map key)
  match hblock : l.filter (key · == k) with
  | [] =>
    rw [hblock] at hperm
    exact hperm.eq_nil
  | [a] =>
    rw [hblock] at hperm
    exact List.perm_singleton.mp hperm
  | a :: b :: rest =>
    -- two members of the block have its key
    rw [hblock] at hkeys hnodup
    have hsame : key a = key b := by
      rw [hkeys a List.mem_cons_self, hkeys b (List.mem_cons_of_mem a List.mem_cons_self)]
    have hne : key a ∉ (b :: rest).map key := (List.nodup_cons.mp hnodup).1
    exact absurd (hsame ▸ List.mem_map_of_mem List.mem_cons_self) hne

end ByPlace

/-! ## Passing -/

namespace CuratedTag

/-- No code stands twice in the list of a tag. -/
theorem nodup_codes (tag : CuratedTag) : tag.codes.Nodup := by cases tag <;> decide

end CuratedTag

namespace Filter

/-- The beach is a favorite if it has to be, and its name or its code, both in small letters, contain the
query in small letters and without blanks around it. -/
def Passes (f : Filter) (favorites : KeySet) (b : Beach) : Prop :=
  (f.favoritesOnly = false ∨ b.id ∈ favorites.keys) ∧
    (lowercase (trim f.query) = "" ∨
      (lowercase (trim f.query)).toList <:+: (lowercase b.name).toList ∨
      (lowercase (trim f.query)).toList <:+: (lowercase b.code).toList)

instance (f : Filter) (favorites : KeySet) (b : Beach) : Decidable (f.Passes favorites b) :=
  inferInstanceAs (Decidable (_ ∧ _))

/-- The beach has one of the codes that are asked for, if a tag asks for some. -/
def Includes (f : Filter) (b : Beach) : Prop := ∀ tag ∈ f.tag, b.code ∈ tag.codes

instance (f : Filter) (b : Beach) : Decidable (f.Includes b) :=
  inferInstanceAs (Decidable (∀ tag ∈ f.tag, b.code ∈ tag.codes))

variable {f : Filter} {favorites : KeySet}

/-- **The first two stages let a beach pass exactly if it does.** -/
theorem admits_iff {b : Beach} : f.admits favorites b = true ↔ f.Passes favorites b := by
  unfold admits Passes needle Beach.matchesQuery Text.contains
  rw [Bool.and_eq_true, Bool.or_eq_true, Bool.or_eq_true, Bool.or_eq_true, occursIn_iff, occursIn_iff,
    KeySet.mem_keys, Bool.not_eq_true', String.isEmpty_iff]

/-- What passes the first two stages. -/
theorem filter_admits (beaches : List Beach) :
    beaches.filter (f.admits favorites) = beaches.filter (f.Passes favorites ·) :=
  List.filter_congr fun _ _ => Bool.eq_iff_iff.mpr (admits_iff.trans decide_eq_true_iff.symm)

/-- A tag sorts the admitted beaches on its list by the place of their codes. -/
theorem apply_eq_mergeSort {tag : CuratedTag} (h : f.tag = some tag) (beaches : List Beach) :
    f.apply favorites beaches =
      ((beaches.filter (f.admits favorites)).filter fun b => tag.includes b.code).mergeSort
        (byPlace Beach.code tag.codes) := by
  unfold apply
  rw [h]
  rfl

/-- **A tag shows the beaches that pass, code by code.** -/
theorem apply_of_tag {tag : CuratedTag} (h : f.tag = some tag) (beaches : List Beach) :
    f.apply favorites beaches = tag.codes.flatMap fun code =>
      (beaches.filter (f.Passes favorites ·)).filter (·.code == code) := by
  rw [apply_eq_mergeSort h, filter_admits]
  generalize beaches.filter (f.Passes favorites ·) = passing
  have hknown : ∀ b ∈ passing.filter (fun b => tag.includes b.code), b.code ∈ tag.codes := fun b hb =>
    List.contains_iff_mem.mp (List.mem_filter.mp hb).2
  rw [mergeSort_eq_flatMap tag.nodup_codes hknown]
  refine List.flatMap_congr fun code hcode => ?_
  rw [List.filter_filter]
  refine List.filter_congr fun b _ => ?_
  by_cases hb : b.code = code
  · simp [hb, CuratedTag.includes, hcode]
  · simp [hb]

/-- **Nothing that passes is lost, repeated or added.** -/
theorem apply_perm (beaches : List Beach) : (f.apply favorites beaches).Perm
    ((beaches.filter (f.Passes favorites ·)).filter (f.Includes ·)) := by
  unfold apply
  rw [filter_admits]
  generalize beaches.filter (f.Passes favorites ·) = passing
  cases htag : f.tag with
  | none =>
    have hall : passing.filter (f.Includes ·) = passing :=
      List.filter_eq_self.mpr fun _ _ => decide_eq_true fun tag h => by simp [htag] at h
    rw [hall]
  | some tag =>
    have hincludes : passing.filter (f.Includes ·) = passing.filter fun b => tag.includes b.code := by
      refine List.filter_congr fun b _ => ?_
      simp [Includes, htag, CuratedTag.includes]
    rw [hincludes]
    exact List.mergeSort_perm _ _

/-- **What a filter shows.** A beach passes if it is a favorite, where favorites only are shown, and its
name or its code contains the query, in small letters on both sides. Without a tag the beaches that pass
are shown in their order. A tag shows code by code, in the order of its list, the beaches that pass and
have that code, in the order they had. So each beach that passes, and has one of the codes if there is a
tag, is shown as often as it stands in the list, and no other is; and where no two beaches that pass have
the same code, a tag shows the same whatever the order of the list. -/
theorem shown_beaches (f : Filter) (favorites : KeySet) (beaches : List Beach) :
    let passing := beaches.filter (f.Passes favorites ·)
    ({ f with tag := none }.apply favorites beaches = passing) ∧
    (∀ tag : CuratedTag, { f with tag := some tag }.apply favorites beaches =
      tag.codes.flatMap fun code => passing.filter (·.code == code)) ∧
    (f.apply favorites beaches).Perm (passing.filter (f.Includes ·)) ∧
    ∀ permuted, beaches.Perm permuted → (passing.map Beach.code).Nodup → ∀ tag : CuratedTag,
      { f with tag := some tag }.apply favorites permuted =
        { f with tag := some tag }.apply favorites beaches := by
  intro passing
  refine ⟨filter_admits beaches, fun tag => apply_of_tag rfl beaches, apply_perm beaches, ?_⟩
  intro permuted h distinct tag
  rw [apply_of_tag rfl, apply_of_tag rfl]
  exact List.flatMap_congr fun code _ => filter_eq_of_perm distinct (h.filter _) code

/-- A beach of which little is known. -/
def sampleBeach (id code name : String) : Beach :=
  ⟨id, code, name, .unknown, none, none, none, none, false⟩

/-- Four beaches with different codes. -/
def fourBeaches : List Beach :=
  [sampleBeach "1" "HAEUNDAE" "해운대", sampleBeach "2" "SONGDO" "송도",
    sampleBeach "3" "GWANGALLI" "광안리", sampleBeach "4" "DADAEPO" "다대포"]

/-- The beaches that are trending and have a `g` in their code. -/
def trendingWithG : Filter := ⟨" G ", false, some .trending⟩

/-- In a list with two beaches at Songdo and one at Gwangalli that stands there twice, the one at Gwangalli
is shown first, twice, and then the two at Songdo. Four beaches with different codes may stand in any
order. -/
theorem shown_beaches_repeated :
    (trendingWithG.apply .empty (fourBeaches ++ [sampleBeach "5" "SONGDO" "송도",
      sampleBeach "3" "GWANGALLI" "광안리"])).map Beach.id = ["3", "3", "2", "5"] ∧
    fourBeaches.Perm fourBeaches.reverse ∧
    ((fourBeaches.filter (trendingWithG.Passes .empty ·)).map Beach.code).Nodup ∧
    trendingWithG.apply .empty fourBeaches.reverse = trendingWithG.apply .empty fourBeaches := by
  have hperm : fourBeaches.Perm fourBeaches.reverse := (List.reverse_perm _).symm
  have hdistinct : ((fourBeaches.filter (trendingWithG.Passes .empty ·)).map Beach.code).Nodup := by
    decide +kernel
  obtain ⟨_, htag, _, _⟩ := shown_beaches trendingWithG .empty
    (fourBeaches ++ [sampleBeach "5" "SONGDO" "송도", sampleBeach "3" "GWANGALLI" "광안리"])
  obtain ⟨_, _, _, horder⟩ := shown_beaches trendingWithG .empty fourBeaches
  refine ⟨?_, hperm, hdistinct, horder fourBeaches.reverse hperm hdistinct .trending⟩
  rw [show trendingWithG = { trendingWithG with tag := some .trending } from rfl, htag]
  decide +kernel

/-! ## Filtering again -/

/-- A list on which a filter has nothing left to do: its beaches pass, have one of the codes if there is a
tag, and stand in the order of the codes. -/
structure Settled (f : Filter) (favorites : KeySet) (beaches : List Beach) : Prop where
  passes : ∀ b ∈ beaches, f.Passes favorites b
  includes : ∀ b ∈ beaches, f.Includes b
  inOrder : ∀ tag ∈ f.tag, beaches.Pairwise fun a b => tag.rank a.code ≤ tag.rank b.code

/-- What a filter shows is settled. -/
theorem settled_apply (f : Filter) (favorites : KeySet) (beaches : List Beach) :
    f.Settled favorites (f.apply favorites beaches) := by
  have hmem : ∀ b ∈ f.apply favorites beaches, f.Passes favorites b ∧ f.Includes b := by
    intro b hb
    obtain ⟨hpassing, hincludes⟩ := List.mem_filter.mp ((apply_perm beaches).mem_iff.mp hb)
    exact ⟨of_decide_eq_true (List.mem_filter.mp hpassing).2, of_decide_eq_true hincludes⟩
  refine ⟨fun b hb => (hmem b hb).1, fun b hb => (hmem b hb).2, ?_⟩
  intro tag htag
  rw [apply_eq_mergeSort (Option.mem_def.mp htag)]
  exact (List.pairwise_mergeSort (byPlace_trans Beach.code tag.codes) (byPlace_total Beach.code tag.codes)
    _).imp of_decide_eq_true

/-- A settled list is shown as it is: no beach is dropped, and sorting leaves a list that is in order. -/
theorem apply_of_settled {beaches : List Beach} (h : f.Settled favorites beaches) :
    f.apply favorites beaches = beaches := by
  have hadmitted : beaches.filter (f.admits favorites) = beaches :=
    List.filter_eq_self.mpr fun b hb => admits_iff.mpr (h.passes b hb)
  cases htag : f.tag with
  | none =>
    unfold apply
    rw [htag]
    exact hadmitted
  | some tag =>
    have hincluded : beaches.filter (fun b => tag.includes b.code) = beaches :=
      List.filter_eq_self.mpr fun b hb => List.contains_iff_mem.mpr (h.includes b hb tag htag)
    rw [apply_eq_mergeSort htag, hadmitted, hincluded]
    exact List.mergeSort_of_pairwise ((h.inOrder tag htag).imp decide_eq_true)

/-- **Filtering again changes nothing.** What a filter shows of a list it shows once more of its own result,
beach by beach in the same order, also where codes are repeated. The lists that it leaves as they are, are
exactly those that are settled. -/
theorem filtering_again (f : Filter) (favorites : KeySet) (beaches : List Beach) :
    f.apply favorites (f.apply favorites beaches) = f.apply favorites beaches ∧
    (f.apply favorites beaches = beaches ↔ f.Settled favorites beaches) := by
  refine ⟨apply_of_settled (settled_apply f favorites beaches), ?_, apply_of_settled⟩
  intro hsame
  have hsettled := settled_apply f favorites beaches
  rw [hsame] at hsettled
  exact hsettled

end Filter

end Shoreline
