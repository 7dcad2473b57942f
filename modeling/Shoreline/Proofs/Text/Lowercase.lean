import Mathlib.Data.List.Basic
import Shoreline.Text.Lowercase

/-!
# `Shoreline.Proofs.Text.Lowercase` — the small letters of a piece and of the whole

A text is put into small letters character by character, but for the capital sigma: it becomes `ς` at the
end of a word and `σ` elsewhere. So a piece of a text may have other small letters by itself than the text
has at that place. This happens exactly where a sigma of the piece ends a word in the one and not in the
other, and whether that can happen shows in the piece alone (`DecidedOutside`): between the sigma and an
end of the piece there are only characters that are passed over.

`lowercaseBetween` gives the small letters of a piece with both of its neighbours at hand. A letter in front
can only turn a `σ` into `ς`, and one behind only a `ς` into `σ`. So where such a letter changes something,
one of the two becomes rarer, and the small letters of the piece do not occur in those of the whole at any
place.

## Contents
- `meetsLetter_append`; `DecidedOutside` with `endsWord_append` and `endsWord_of_decidedOutside`.
- `lowercaseBetween`, `lowercaseFrom_append`; `lowercaseFrom_eq_nil_iff`, `lowercase_eq_empty_iff`.
- `AtSigmas`, `atSigmas_cons`; `lowercaseBetween_eq_iff`, `smallBetween_of_rising`, `count_of_rising`.
- `KeepsSigmas`, `lowercase_infix_of_keepsSigmas`; `SelfContained`, `not_infix_of_count_lt`,
  `lowercase_infix_iff`.
-/

namespace Shoreline.Text

/-! ## Letters that are met -/

theorem meetsLetter_cons (c : Char) (s : List Char) :
    meetsLetter (c :: s) = if isCaseIgnorable c then meetsLetter s else isCased c := by
  unfold meetsLetter
  rw [List.dropWhile_cons]
  by_cases hc : isCaseIgnorable c = true
  · rw [if_pos hc, if_pos hc]
  · rw [if_neg hc, if_neg hc]

/-- What stands further away counts only if all that is nearer is passed over. -/
theorem meetsLetter_append (s t : List Char) :
    meetsLetter (s ++ t) = if s.all isCaseIgnorable then meetsLetter t else meetsLetter s := by
  induction s with
  | nil => simp
  | cons c s ih =>
    rw [List.cons_append, meetsLetter_cons, meetsLetter_cons, ih, List.all_cons]
    by_cases hc : isCaseIgnorable c = true
    · simp only [hc, if_true, Bool.true_and]
    · simp only [hc, Bool.false_eq_true, if_false, Bool.false_and]

/-- No letter is met where everything is passed over. -/
theorem meetsLetter_of_all {s : List Char} (h : s.all isCaseIgnorable = true) :
    meetsLetter s = false := by
  have hend := meetsLetter_append s []
  rw [if_pos h, List.append_nil] at hend
  exact hend

/-- A letter that is met is met whatever stands further away. -/
theorem meetsLetter_append_of_meets {s : List Char} (h : meetsLetter s = true) (t : List Char) :
    meetsLetter (s ++ t) = true := by
  have hsome : ¬ s.all isCaseIgnorable = true := by
    intro hall
    rw [meetsLetter_of_all hall] at h
    exact Bool.false_ne_true h
  rw [meetsLetter_append, if_neg hsome, h]

/-- The letter `a` is met behind all that is passed over. -/
theorem meetsLetter_append_a {s : List Char} (h : s.all isCaseIgnorable = true) :
    meetsLetter (s ++ ['a']) = true := by
  rw [meetsLetter_append, if_pos h]
  decide +kernel

/-! ## The end of a word -/

/-- Whether the place between `before` and `after` ends a word may hang on what stands beyond them: on the
one side there are only characters that are passed over, and the other side does not rule it out. -/
def DecidedOutside (before after : List Char) : Prop :=
  (before.all isCaseIgnorable = true ∧ meetsLetter after = false) ∨
    (after.all isCaseIgnorable = true ∧ meetsLetter before = true)

instance (before after : List Char) : Decidable (DecidedOutside before after) :=
  inferInstanceAs (Decidable (_ ∨ _))

/-- Otherwise nothing that stands beyond them counts. -/
theorem endsWord_append {before after : List Char} (h : ¬ DecidedOutside before after)
    (further later : List Char) :
    endsWord (before ++ further) (after ++ later) = endsWord before after := by
  unfold DecidedOutside at h
  unfold endsWord
  rw [meetsLetter_append, meetsLetter_append]
  cases hbefore : before.all isCaseIgnorable with
  | true =>
    -- no letter in front is in sight, so one behind must rule the end of a word out
    have hletter : meetsLetter after = true := by
      by_contra hnone
      exact h (Or.inl ⟨hbefore, by simpa using hnone⟩)
    have hafter : after.all isCaseIgnorable = false := by
      by_contra hall
      rw [meetsLetter_of_all (by simpa using hall)] at hletter
      exact Bool.false_ne_true hletter
    simp [hafter, hletter]
  | false =>
    cases hafter : after.all isCaseIgnorable with
    | true =>
      have hnone : meetsLetter before = false := by
        by_contra hletter
        exact h (Or.inr ⟨hafter, by simpa using hletter⟩)
      simp [hnone]
    | false => simp

/-- Where it may hang on that, a letter on one of the sides decides otherwise. -/
theorem endsWord_of_decidedOutside {before after : List Char} (h : DecidedOutside before after) :
    endsWord (before ++ ['a']) after ≠ endsWord before after ∨
      endsWord before (after ++ ['a']) ≠ endsWord before after := by
  unfold endsWord
  rcases h with ⟨hbefore, hafter⟩ | ⟨hafter, hbefore⟩
  · left
    rw [meetsLetter_append_a hbefore, meetsLetter_of_all hbefore, hafter]
    decide
  · right
    rw [meetsLetter_append_a hafter, meetsLetter_of_all hafter, hbefore]
    decide

/-- What stands further in front can make a word end here, but not go on. -/
theorem endsWord_of_further {before after : List Char} (h : endsWord before after = true)
    (further : List Char) : endsWord (before ++ further) after = true := by
  unfold endsWord at h ⊢
  obtain ⟨hbefore, hafter⟩ := Bool.and_eq_true_iff.mp h
  rw [meetsLetter_append_of_meets hbefore, hafter, Bool.and_self]

/-- What stands further behind can make a word go on, but not end here. -/
theorem endsWord_of_later {before after later : List Char}
    (h : endsWord before (after ++ later) = true) : endsWord before after = true := by
  unfold endsWord at h ⊢
  obtain ⟨hbefore, hafter⟩ := Bool.and_eq_true_iff.mp h
  have hnone : meetsLetter after = false := by
    by_contra hletter
    rw [meetsLetter_append_of_meets (by simpa using hletter)] at hafter
    exact absurd hafter (by decide)
  rw [hbefore, hnone]
  rfl

/-! ## A piece of a text -/

/-- The small letters of a character between its neighbours, those before it nearest first. -/
def smallBetween (before after : List Char) (c : Char) : List Char :=
  if c = 'Σ' then [if endsWord before after then 'ς' else 'σ'] else smallLetter c

/-- The small letters of a piece of a text, with what stands before it, nearest first, and after it. -/
def lowercaseBetween (before after : List Char) : List Char → List Char
  | [] => []
  | c :: s => smallBetween before (s ++ after) c ++ lowercaseBetween (c :: before) after s

/-- **The small letters of a whole are those of its pieces**, each with its neighbours. -/
theorem lowercaseFrom_append (before s t : List Char) :
    lowercaseFrom before (s ++ t) =
      lowercaseBetween before t s ++ lowercaseFrom (s.reverse ++ before) t := by
  induction s generalizing before with
  | nil => rfl
  | cons c s ih =>
    rw [List.cons_append, lowercaseFrom, ih, lowercaseBetween, List.append_assoc,
      List.reverse_cons, List.append_assoc]
    rfl

/-- A text is a piece with nothing after it. -/
theorem lowercaseFrom_eq_between (before s : List Char) :
    lowercaseFrom before s = lowercaseBetween before [] s := by
  have hwhole := lowercaseFrom_append before s []
  rw [List.append_nil] at hwhole
  rw [hwhole, lowercaseFrom, List.append_nil]

/-- A piece stands in its text with the small letters that its neighbours give it. -/
theorem lowercaseBetween_infix (before s after : List Char) :
    lowercaseBetween before.reverse after s <:+: lowercaseFrom [] (before ++ s ++ after) := by
  rw [List.append_assoc, lowercaseFrom_append, List.append_nil, lowercaseFrom_append, ← List.append_assoc]
  exact List.infix_append _ _ _

/-- Every character has small letters. -/
theorem smallLetter_ne_nil (c : Char) : smallLetter c ≠ [] := by
  unfold smallLetter
  split
  · exact List.cons_ne_nil _ _
  · split
    · exact List.cons_ne_nil _ _
    · exact List.cons_ne_nil _ _

theorem lowercaseFrom_eq_nil_iff {before s : List Char} : lowercaseFrom before s = [] ↔ s = [] := by
  cases s with
  | nil => exact iff_of_true rfl rfl
  | cons c s =>
    refine iff_of_false ?_ (List.cons_ne_nil c s)
    rw [lowercaseFrom]
    intro hnil
    have hfirst := (List.append_eq_nil_iff.mp hnil).1
    split at hfirst
    · exact List.cons_ne_nil _ _ hfirst
    · exact smallLetter_ne_nil c hfirst

/-- **Only the empty text has no small letters.** -/
theorem lowercase_eq_empty_iff {s : String} : lowercase s = "" ↔ s = "" := by
  unfold lowercase
  rw [String.ofList_eq_empty_iff, lowercaseFrom_eq_nil_iff, String.toList_eq_nil_iff]

theorem toList_lowercase (s : String) : (lowercase s).toList = lowercaseFrom [] s.toList :=
  String.toList_ofList

/-! ## Capital sigmas -/

/-- Something holds of what stands before, nearest first, and after each capital sigma of a list. -/
def AtSigmas (P : List Char → List Char → Prop) (s : List Char) : Prop :=
  ∀ before after, s = before.reverse ++ 'Σ' :: after → P before after

theorem atSigmas_nil (P : List Char → List Char → Prop) : AtSigmas P [] := by
  intro before after h
  exact absurd h.symm (List.append_ne_nil_of_right_ne_nil _ (List.cons_ne_nil _ _))

/-- A sigma is the first character or stands behind it. -/
theorem atSigmas_cons {P : List Char → List Char → Prop} {c : Char} {s : List Char} :
    AtSigmas P (c :: s) ↔
      (c = 'Σ' → P [] s) ∧ AtSigmas (fun before after => P (before ++ [c]) after) s := by
  constructor
  · intro h
    refine ⟨?_, ?_⟩
    · rintro rfl
      exact h [] s rfl
    · rintro before after rfl
      exact h (before ++ [c]) after (by simp)
  · rintro ⟨hfirst, hrest⟩ before after h
    rcases List.eq_nil_or_concat before with rfl | ⟨nearer, d, rfl⟩
    · obtain ⟨hc, rfl⟩ := List.cons.inj h
      exact hfirst hc
    · rw [List.concat_eq_append] at h ⊢
      rw [List.reverse_append] at h
      obtain ⟨rfl, hs⟩ := List.cons.inj h
      exact hrest nearer after hs

instance decidableAtSigmas (P : List Char → List Char → Prop) [∀ before after, Decidable (P before after)] :
    (s : List Char) → Decidable (AtSigmas P s)
  | [] => .isTrue (atSigmas_nil P)
  | c :: s =>
    have := decidableAtSigmas (fun before after => P (before ++ [c]) after) s
    decidable_of_iff _ atSigmas_cons.symm

/-! ## The same piece between other neighbours -/

/-- A character has the same small letters between other neighbours unless it is a sigma that ends a word
between the one and not between the other. -/
theorem smallBetween_eq_iff {before after before' after' : List Char} {c : Char} :
    smallBetween before after c = smallBetween before' after' c ↔
      (c = 'Σ' → endsWord before after = endsWord before' after') := by
  unfold smallBetween
  by_cases hc : c = 'Σ'
  · rw [if_pos hc, if_pos hc]
    cases endsWord before after <;> cases endsWord before' after' <;> simp [hc]
  · rw [if_neg hc, if_neg hc]
    exact iff_of_true rfl fun h => absurd h hc

theorem length_smallBetween (before after before' after' : List Char) (c : Char) :
    (smallBetween before after c).length = (smallBetween before' after' c).length := by
  unfold smallBetween
  split <;> rfl

/-- **A piece has the same small letters between other neighbours exactly if its sigmas keep their
form.** -/
theorem lowercaseBetween_eq_iff {before after before' after' s : List Char} :
    lowercaseBetween before after s = lowercaseBetween before' after' s ↔
      AtSigmas (fun b a => endsWord (b ++ before) (a ++ after) = endsWord (b ++ before') (a ++ after')) s := by
  induction s generalizing before before' with
  | nil => exact iff_of_true rfl (atSigmas_nil _)
  | cons c s ih =>
    rw [atSigmas_cons]
    simp only [List.append_assoc, List.singleton_append, List.nil_append]
    rw [← ih, ← smallBetween_eq_iff, lowercaseBetween, lowercaseBetween]
    constructor
    · intro h
      exact List.append_inj h (length_smallBetween _ _ _ _ c)
    · rintro ⟨hfirst, hrest⟩
      rw [hfirst, hrest]

/-- Where a word can only come to end, a character keeps its small letters or its `σ` becomes `ς`. -/
theorem smallBetween_of_rising {before after before' after' : List Char} {c : Char}
    (rising : c = 'Σ' → endsWord before after = true → endsWord before' after' = true) :
    smallBetween before after c = smallBetween before' after' c ∨
      (smallBetween before after c = ['σ'] ∧ smallBetween before' after' c = ['ς']) := by
  by_cases hsame : c = 'Σ' → endsWord before after = endsWord before' after'
  · exact Or.inl (smallBetween_eq_iff.mpr hsame)
  · push Not at hsame
    obtain ⟨rfl, hne⟩ := hsame
    have hfirst : endsWord before after = false := by
      by_contra hends
      have htrue : endsWord before after = true := by simpa using hends
      exact hne (htrue.trans (rising rfl htrue).symm)
    have hsecond : endsWord before' after' = true := by
      by_contra hgoes
      have hfalse : endsWord before' after' = false := by simpa using hgoes
      exact hne (hfirst.trans hfalse.symm)
    right
    simp [smallBetween, hfirst, hsecond]

/-- **Where words can only come to end, `ς` becomes more frequent and `σ` rarer**, unless nothing changes. -/
theorem count_of_rising {before after before' after' s : List Char}
    (rising : AtSigmas (fun b a => endsWord (b ++ before) (a ++ after) = true →
      endsWord (b ++ before') (a ++ after') = true) s)
    (changed : lowercaseBetween before after s ≠ lowercaseBetween before' after' s) :
    (lowercaseBetween before after s).count 'ς' < (lowercaseBetween before' after' s).count 'ς' ∧
      (lowercaseBetween before' after' s).count 'σ' < (lowercaseBetween before after s).count 'σ' := by
  induction s generalizing before before' with
  | nil => exact absurd rfl changed
  | cons c s ih =>
    rw [atSigmas_cons] at rising
    simp only [List.append_assoc, List.singleton_append, List.nil_append] at rising
    obtain ⟨hfirst, hrest⟩ := rising
    have hlater := @ih (c :: before) (c :: before') hrest
    rw [lowercaseBetween, lowercaseBetween] at changed ⊢
    simp only [List.count_append]
    by_cases hsame : lowercaseBetween (c :: before) after s = lowercaseBetween (c :: before') after' s
    · -- the rest is the same, so the first character changes
      rcases smallBetween_of_rising hfirst with heq | ⟨hone, hother⟩
      · rw [heq, hsame] at changed
        exact absurd rfl changed
      · rw [hsame, hone, hother]
        simp
    · -- the rest changes as claimed, and the first character keeps its small letters or changes so, too
      obtain ⟨hmore, hfewer⟩ := hlater hsame
      rcases smallBetween_of_rising hfirst with heq | ⟨hone, hother⟩
      · rw [heq]
        omega
      · have hfinal : ['σ'].count 'ς' = 0 ∧ ['ς'].count 'ς' = 1 := by decide
        have hinner : ['σ'].count 'σ' = 1 ∧ ['ς'].count 'σ' = 0 := by decide
        rw [hone, hother, hfinal.1, hfinal.2, hinner.1, hinner.2]
        omega

/-! ## A piece and the texts that hold it -/

/-- Between what stands before it, nearest first, and after it each capital sigma of a piece has the form
that it has in the piece alone. -/
def KeepsSigmas (before after s : List Char) : Prop :=
  AtSigmas (fun b a => endsWord (b ++ before) (a ++ after) = endsWord b a) s

instance (before after s : List Char) : Decidable (KeepsSigmas before after s) :=
  inferInstanceAs (Decidable (AtSigmas _ s))

/-- The small letters of a piece are those that it has in its text exactly if its sigmas keep their form. -/
theorem lowercaseBetween_eq_lowercaseFrom_iff {before after s : List Char} :
    lowercaseBetween before after s = lowercaseFrom [] s ↔ KeepsSigmas before after s := by
  rw [lowercaseFrom_eq_between, lowercaseBetween_eq_iff]
  simp only [List.append_nil, KeepsSigmas]

/-- **A piece whose sigmas keep their form has its small letters among those of the text.** -/
theorem lowercase_infix_of_keepsSigmas {before s after : List Char}
    (h : KeepsSigmas before.reverse after s) :
    lowercaseFrom [] s <:+: lowercaseFrom [] (before ++ s ++ after) := by
  rw [← lowercaseBetween_eq_lowercaseFrom_iff.mpr h]
  exact lowercaseBetween_infix before s after

/-- The form of no capital sigma of the list hangs on what stands around the list. -/
def SelfContained (s : List Char) : Prop := AtSigmas (fun b a => ¬ DecidedOutside b a) s

instance (s : List Char) : Decidable (SelfContained s) := inferInstanceAs (Decidable (AtSigmas _ s))

/-- A list without capital sigmas is self-contained. -/
theorem selfContained_of_not_mem {s : List Char} (h : 'Σ' ∉ s) : SelfContained s := by
  rintro before after rfl
  exact absurd (List.mem_append_right _ List.mem_cons_self) h

theorem SelfContained.keepsSigmas {s : List Char} (h : SelfContained s) (before after : List Char) :
    KeepsSigmas before after s :=
  fun b a hs => endsWord_append (h b a hs) before after

/-- A list that is not self-contained has other small letters with a letter in front or behind. -/
theorem not_keepsSigmas_of_not_selfContained {s : List Char} (h : ¬ SelfContained s) :
    ¬ KeepsSigmas ['a'] [] s ∨ ¬ KeepsSigmas [] ['a'] s := by
  unfold SelfContained AtSigmas at h
  push Not at h
  obtain ⟨before, after, hs, hdecided⟩ := h
  rcases endsWord_of_decidedOutside hdecided with hne | hne
  · left
    intro hkeeps
    have hsame : endsWord (before ++ ['a']) (after ++ []) = endsWord before after := hkeeps before after hs
    rw [List.append_nil] at hsame
    exact hne hsame
  · right
    intro hkeeps
    have hsame : endsWord (before ++ []) (after ++ ['a']) = endsWord before after := hkeeps before after hs
    rw [List.append_nil] at hsame
    exact hne hsame

/-- If a letter becomes rarer in a piece between its neighbours, and these do not have it, then the small
letters of the piece are missing in the text. -/
theorem not_infix_of_count_lt {before s after : List Char} {c : Char}
    (hbefore : (lowercaseBetween [] (s ++ after) before).count c = 0)
    (hafter : (lowercaseFrom (s.reverse ++ before.reverse) after).count c = 0)
    (rarer : (lowercaseBetween before.reverse after s).count c < (lowercaseBetween [] [] s).count c) :
    ¬ lowercaseFrom [] s <:+: lowercaseFrom [] (before ++ s ++ after) := by
  intro hinfix
  have hle := hinfix.sublist.count_le c
  rw [List.append_assoc, lowercaseFrom_append, List.append_nil, lowercaseFrom_append, List.count_append,
    List.count_append, hbefore, hafter, Nat.zero_add, Nat.add_zero, lowercaseFrom_eq_between] at hle
  exact Nat.not_lt.mpr hle rarer

/-- With the letter `a` in front a sigma can only come to end its word. Then a `σ` of the list is missing. -/
theorem not_infix_of_letter_before {s : List Char} (h : ¬ KeepsSigmas ['a'] [] s) :
    ¬ lowercaseFrom [] s <:+: lowercaseFrom [] (['a'] ++ s ++ []) := by
  have hchanged : lowercaseBetween [] [] s ≠ lowercaseBetween ['a'] [] s := by
    rw [← lowercaseFrom_eq_between]
    exact fun heq => h (lowercaseBetween_eq_lowercaseFrom_iff.mp heq.symm)
  have rising : AtSigmas (fun b a => endsWord (b ++ []) (a ++ []) = true →
      endsWord (b ++ ['a']) (a ++ []) = true) s := by
    intro b a _ hends
    rw [List.append_nil] at hends
    exact endsWord_of_further hends ['a']
  obtain ⟨_, hrarer⟩ := count_of_rising rising hchanged
  refine not_infix_of_count_lt ?_ rfl hrarer
  simp [lowercaseBetween, smallBetween, smallLetter]

/-- With the letter `a` behind a sigma can only cease to end its word. Then a `ς` of the list is missing. -/
theorem not_infix_of_letter_behind {s : List Char} (h : ¬ KeepsSigmas [] ['a'] s) :
    ¬ lowercaseFrom [] s <:+: lowercaseFrom [] ([] ++ s ++ ['a']) := by
  have hchanged : lowercaseBetween [] ['a'] s ≠ lowercaseBetween [] [] s := by
    rw [← lowercaseFrom_eq_between]
    exact fun heq => h (lowercaseBetween_eq_lowercaseFrom_iff.mp heq)
  have rising : AtSigmas (fun b a => endsWord (b ++ []) (a ++ ['a']) = true →
      endsWord (b ++ []) (a ++ []) = true) s := by
    intro b a _ hends
    rw [List.append_nil a]
    exact endsWord_of_later hends
  obtain ⟨hrarer, _⟩ := count_of_rising rising hchanged
  refine not_infix_of_count_lt rfl ?_ hrarer
  simp [lowercaseFrom, smallLetter]

/-- **The small letters of a piece stand among those of every text that holds it exactly if the piece is
self-contained.** -/
theorem lowercase_infix_iff {s : List Char} :
    (∀ before after, lowercaseFrom [] s <:+: lowercaseFrom [] (before ++ s ++ after)) ↔
      SelfContained s := by
  constructor
  · intro h
    by_contra hopen
    rcases not_keepsSigmas_of_not_selfContained hopen with hbefore | hbehind
    · exact not_infix_of_letter_before hbefore (h ['a'] [])
    · exact not_infix_of_letter_behind hbehind (h [] ['a'])
  · intro h before after
    exact lowercase_infix_of_keepsSigmas (h.keepsSigmas before.reverse after)

end Shoreline.Text
