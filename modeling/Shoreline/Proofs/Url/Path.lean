import Shoreline.Url.Address

/-!
# `Shoreline.Proofs.Url.Path` — paths below a path

Segments are resolved one after the other, and a dot segment takes back what came before it. So where
segments are appended to a path it is enough to know where one is after the path; and the normal form of a
path holds no dot segments.

## Contents
- `Undotted`, `climb`; `resolve_append`, `resolve_climb`, `undotted_resolve`.
- `splitAt_append`, `splitAt_intercalate`: the segments of a text.
- `isSlash_slash`, `isPathChar_slash`, `toNat_of_isPathChar`: the characters of a path.
- `pathBase`; `pathSegments_slashes`, `pathSegments_below`: a path that slashes or segments are appended to.
-/

namespace Shoreline.Url

open Text

/-! ## Dot segments -/

/-- A segment that is neither of the dot segments. -/
def Undotted (s : List Char) : Prop := isDot s = false ∧ isDoubleDot s = false

theorem undotted_nil : Undotted [] := ⟨rfl, rfl⟩

/-- Where one is after some segments if more of them follow, last first. -/
def climb (above : List (List Char)) : List (List Char) → List (List Char)
  | [] => above
  | s :: rest =>
    climb (if isDoubleDot s then above.drop 1 else if isDot s then above else s :: above) rest

/-- Segments are resolved one after the other, but it matters which is the last. -/
theorem resolve_append (above segs : List (List Char)) {rest : List (List Char)} (h : rest ≠ []) :
    resolve above (segs ++ rest) = resolve (climb above segs) rest := by
  induction segs generalizing above with
  | nil => rfl
  | cons s segs ih =>
    have hmore : (segs ++ rest).isEmpty = false := by
      cases segs with
      | nil => simpa using h
      | cons t segs => rfl
    rw [List.cons_append, resolve, climb, hmore]
    simp only [Bool.false_eq_true, if_false]
    split
    · exact ih _
    · split
      · exact ih _
      · exact ih _

/-- Where one is at the end, but for slashes. -/
theorem resolve_climb (above segs : List (List Char)) :
    ∃ k, resolve above segs = (climb above segs).reverse ++ List.replicate k [] := by
  induction segs generalizing above with
  | nil => exact ⟨0, (List.append_nil _).symm⟩
  | cons s segs ih =>
    cases segs with
    | nil =>
      rw [resolve, climb]
      split
      · exact ⟨1, by simp [resolve, climb]⟩
      · split
        · exact ⟨1, by simp [resolve, climb]⟩
        · exact ⟨0, by simp [resolve, climb]⟩
    | cons t segs =>
      rw [resolve, climb]
      simp only [List.isEmpty_cons, Bool.false_eq_true, if_false]
      split
      · exact ih _
      · split
        · exact ih _
        · exact ih _

/-- **No dot segments are left.** -/
theorem undotted_resolve {above : List (List Char)} (h : ∀ s ∈ above, Undotted s)
    (segs : List (List Char)) : ∀ s ∈ resolve above segs, Undotted s := by
  induction segs generalizing above with
  | nil =>
    intro s hs
    rw [resolve] at hs
    exact h s (List.mem_reverse.mp hs)
  | cons t segs ih =>
    have hdrop : ∀ s ∈ above.drop 1, Undotted s := fun s hs => h s (List.mem_of_mem_drop hs)
    rw [resolve]
    split
    · refine ih ?_
      split
      · exact List.forall_mem_cons.mpr ⟨undotted_nil, hdrop⟩
      · exact hdrop
    · next hdouble =>
      split
      · refine ih ?_
        split
        · exact List.forall_mem_cons.mpr ⟨undotted_nil, h⟩
        · exact h
      · next hdot =>
        exact ih (List.forall_mem_cons.mpr
          ⟨⟨Bool.eq_false_iff.mpr hdot, Bool.eq_false_iff.mpr hdouble⟩, h⟩)

theorem undotted_climb (segs : List (List Char)) : ∀ s ∈ climb [] segs, Undotted s := by
  intro s hs
  obtain ⟨k, hk⟩ := resolve_climb [] segs
  refine undotted_resolve (List.forall_mem_nil _) segs s ?_
  rw [hk]
  exact List.mem_append_left _ (List.mem_reverse.mpr hs)

/-! ## Segments of a text -/

section SplitAt

variable {p : Char → Bool}

theorem splitAt_ne_nil (s : List Char) : splitAt p s ≠ [] := by
  cases s with
  | nil => exact List.cons_ne_nil _ _
  | cons c s =>
    unfold splitAt
    split
    · exact List.cons_ne_nil _ _
    · split <;> exact List.cons_ne_nil _ _

theorem splitAt_cons {c : Char} (h : p c = false) (s : List Char) :
    ∃ part parts, splitAt p s = part :: parts ∧ splitAt p (c :: s) = (c :: part) :: parts := by
  obtain ⟨part, parts, hs⟩ := List.exists_cons_of_ne_nil (splitAt_ne_nil (p := p) s)
  refine ⟨part, parts, hs, ?_⟩
  rw [splitAt, h, hs]
  rfl

/-- A text is split before and behind each separator. -/
theorem splitAt_append {c : Char} (h : p c = true) (s t : List Char) :
    splitAt p (s ++ c :: t) = splitAt p s ++ splitAt p t := by
  induction s with
  | nil =>
    show splitAt p (c :: t) = [] :: splitAt p t
    rw [splitAt, if_pos h]
  | cons d s ih =>
    rw [List.cons_append]
    cases hd : p d with
    | true =>
      rw [splitAt, splitAt, if_pos hd, if_pos hd, ih]
      rfl
    | false =>
      obtain ⟨part, parts, hs, hds⟩ := splitAt_cons hd s
      rw [hds, splitAt, hd, ih, hs]
      rfl

theorem splitAt_of_none {s : List Char} (h : ∀ c ∈ s, p c = false) : splitAt p s = [s] := by
  induction s with
  | nil => rfl
  | cons c s ih =>
    rw [splitAt, h c List.mem_cons_self, ih fun d hd => h d (List.mem_cons_of_mem c hd)]
    rfl

/-- **Parts that are joined are found again.** -/
theorem splitAt_intercalate {c : Char} (hc : p c = true) {parts : List (List Char)} (hne : parts ≠ [])
    (h : ∀ part ∈ parts, ∀ d ∈ part, p d = false) : splitAt p ([c].intercalate parts) = parts := by
  induction parts with
  | nil => exact absurd rfl hne
  | cons part parts ih =>
    have hpart := splitAt_of_none (h part List.mem_cons_self)
    cases parts with
    | nil =>
      rw [List.intercalate_singleton]
      exact hpart
    | cons part' parts =>
      rw [List.intercalate_cons_cons, List.append_assoc, List.singleton_append, splitAt_append hc, hpart,
        ih (List.cons_ne_nil _ _) fun q hq => h q (List.mem_cons_of_mem part hq)]
      rfl

end SplitAt

theorem mem_intercalate {parts : List (List Char)} {c d : Char} (h : c ∈ [d].intercalate parts) :
    c = d ∨ ∃ part ∈ parts, c ∈ part := by
  induction parts with
  | nil => cases h
  | cons part parts ih =>
    cases parts with
    | nil =>
      rw [List.intercalate_singleton] at h
      exact .inr ⟨part, List.mem_cons_self, h⟩
    | cons part' parts =>
      rw [List.intercalate_cons_cons, List.append_assoc] at h
      rcases List.mem_append.mp h with hhere | h
      · exact .inr ⟨part, List.mem_cons_self, hhere⟩
      · rcases List.mem_append.mp h with hmark | h
        · exact .inl (List.mem_singleton.mp hmark)
        · rcases ih h with hmark | ⟨q, hq, hc⟩
          · exact .inl hmark
          · exact .inr ⟨q, List.mem_cons_of_mem part hq, hc⟩

/-! ## Paths below a path -/

@[simp] theorem isSlash_slash : isSlash '/' = true := rfl

@[simp] theorem isPathChar_slash : isPathChar '/' = true := rfl

/-- Neither blanks nor control characters may stand in a path. -/
theorem toNat_of_isPathChar {c : Char} (h : isPathChar c = true) : 0x20 < c.toNat := by
  unfold isPathChar printableExcept at h
  simp only [Bool.and_eq_true, decide_eq_true_eq] at h
  exact h.1.1

theorem splitAt_slashes (j : Nat) : splitAt isSlash (List.replicate j '/') = List.replicate (j + 1) [] := by
  induction j with
  | zero => rfl
  | succ j ih =>
    rw [List.replicate_succ, splitAt, if_pos isSlash_slash, ih]
    rfl

theorem resolve_slashes (above : List (List Char)) (k : Nat) :
    resolve above (List.replicate k []) = above.reverse ++ List.replicate k [] := by
  refine resolve_plain above _ fun s hs => ?_
  rw [List.eq_of_mem_replicate hs]
  exact undotted_nil

/-- The text of a path is empty or begins with a slash. -/
def PathText (s : List Char) : Prop := ∀ c ∈ s.head?, isSlash c = true

/-- Where one is after a path. -/
def pathBase : List Char → List (List Char)
  | [] => []
  | _ :: s => (climb [] ((splitAt isSlash s).map (encode isPathChar))).reverse

theorem undotted_pathBase (s : List Char) : ∀ seg ∈ pathBase s, Undotted seg := by
  cases s with
  | nil => exact List.forall_mem_nil _
  | cons c s => exact fun seg hseg => undotted_climb _ seg (List.mem_reverse.mp hseg)

theorem pathSegments_cons {c : Char} (h : isSlash c = true) (s : List Char) :
    pathSegments isSlash (c :: s) = resolve [] ((splitAt isSlash s).map (encode isPathChar)) := by
  unfold pathSegments
  dsimp only
  rw [if_pos h]

/-- A path that slashes are appended to. -/
theorem pathSegments_slashes {s : List Char} (h : PathText s) (j : Nat) :
    ∃ k, pathSegments isSlash (s ++ List.replicate j '/') = pathBase s ++ List.replicate k [] := by
  cases s with
  | nil =>
    cases j with
    | zero => exact ⟨1, rfl⟩
    | succ j =>
      refine ⟨j + 1, ?_⟩
      rw [List.nil_append, List.replicate_succ, pathSegments_cons isSlash_slash, splitAt_slashes,
        List.map_replicate]
      exact resolve_slashes [] (j + 1)
  | cons c s =>
    have hc := h c rfl
    rw [List.cons_append, pathSegments_cons hc, pathBase]
    cases j with
    | zero =>
      rw [List.replicate_zero, List.append_nil]
      exact resolve_climb [] _
    | succ j =>
      refine ⟨j + 1, ?_⟩
      rw [List.replicate_succ, splitAt_append isSlash_slash, splitAt_slashes, List.map_append,
        List.map_replicate]
      rw [resolve_append _ _ (by simp)]
      exact resolve_slashes _ (j + 1)

/-- A path that segments are appended to. -/
theorem pathSegments_below {s : List Char} (h : PathText s) {parts : List (List Char)} (hne : parts ≠ [])
    (hparts : ∀ part ∈ parts, ∀ c ∈ part, isPathChar c = true ∧ isSlash c = false) :
    pathSegments isSlash (s ++ '/' :: ['/'].intercalate parts) = resolve (pathBase s).reverse parts := by
  have hsplit : (splitAt isSlash (['/'].intercalate parts)).map (encode isPathChar) = parts := by
    rw [splitAt_intercalate isSlash_slash hne fun part hpart c hc => (hparts part hpart c hc).2]
    refine (List.map_congr_left fun part hpart => ?_).trans (List.map_id parts)
    exact encode_eq_self fun c hc => (hparts part hpart c hc).1
  cases s with
  | nil =>
    rw [List.nil_append, pathSegments_cons isSlash_slash, hsplit]
    rfl
  | cons c s =>
    rw [List.cons_append, pathSegments_cons (h c rfl), splitAt_append isSlash_slash, List.map_append,
      hsplit, resolve_append _ _ hne, pathBase, List.reverse_reverse]

end Shoreline.Url
