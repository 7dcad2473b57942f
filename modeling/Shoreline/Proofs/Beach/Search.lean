import Shoreline.Proofs.Beach.Passing
import Shoreline.Proofs.Text.Lowercase

/-!
# `Shoreline.Proofs.Beach.Search` — what a search finds

There are two ways to search. A filter shows all beaches that a query finds, and `firstMatch` jumps to the
first of them. They agree on every query that is not blank; on a blank one the filter shows everything and
there is no beach to jump to.

Both put the query and the names and codes into small letters, each by itself. So a text that stands in a
name as it is need not be found: a capital sigma at its end may end a word there and not in the name, or
the other way round. Exactly the texts whose sigmas do not hang on what stands around them are found
wherever they stand.

## Contents
- `Filter.searching`, `apply_searching`; `needle_isEmpty_iff`, `firstMatch_of_blank`,
  `firstMatch_of_ne`, `mem_of_firstMatch`.
- `firstMatch_is_first_shown`.
- `Beach.Holds`, `Beach.FoundBy`; `foundBy_iff`, `Holds.foundBy`.
- `literal_text_found_iff`, with texts that are found and one that is not.
-/

namespace Shoreline

open Text

/-! ## Filters that search -/

/-- The filter that only searches: all favorites and others, with any code. -/
def Filter.searching (query : String) : Filter := { query := query }

/-- What it looks for is empty only if the query is blank. -/
theorem needle_isEmpty_iff {query : String} : (needle query).isEmpty = true ↔ trim query = "" := by
  unfold needle
  rw [String.isEmpty_iff, lowercase_eq_empty_iff]

/-- It shows the beaches that match the query, in their order. -/
theorem Filter.apply_searching {query : String} (h : trim query ≠ "") (favorites : KeySet)
    (beaches : List Beach) : (searching query).apply favorites beaches =
      beaches.filter (·.matchesQuery (needle query)) := by
  have hneedle : (needle query).isEmpty = false := by
    rw [← Bool.not_eq_true, needle_isEmpty_iff]
    exact h
  show beaches.filter ((searching query).admits favorites) = _
  refine List.filter_congr fun b _ => ?_
  simp only [admits, searching, hneedle, Bool.not_false, Bool.true_or, Bool.true_and, Bool.false_or]

/-- A blank query finds nothing to jump to. -/
theorem firstMatch_of_blank {query : String} (h : trim query = "") (beaches : List Beach) :
    firstMatch beaches query = none := by
  unfold firstMatch
  rw [if_pos (needle_isEmpty_iff.mpr h)]

/-- Any other query jumps to the first beach that is shown. -/
theorem firstMatch_of_ne {query : String} (h : trim query ≠ "") (favorites : KeySet)
    (beaches : List Beach) :
    firstMatch beaches query = ((Filter.searching query).apply favorites beaches).head? := by
  unfold firstMatch
  rw [if_neg (mt needle_isEmpty_iff.mp h), Filter.apply_searching h, List.head?_filter]

/-- The beach to jump to is one of the list. -/
theorem mem_of_firstMatch {beaches : List Beach} {query : String} {b : Beach}
    (h : firstMatch beaches query = some b) : b ∈ beaches := by
  unfold firstMatch at h
  split at h
  · cases h
  · exact List.mem_of_find?_eq_some h

/-- **A search jumps to the first beach that it shows.** There is a beach to jump to exactly if the query is
not blank and the filter that only searches for it shows any beach; and it is the first that is shown. -/
theorem firstMatch_is_first_shown (beaches : List Beach) (query : String) (favorites : KeySet) :
    let shown := (Filter.searching query).apply favorites beaches
    ((firstMatch beaches query).isSome = true ↔ trim query ≠ "" ∧ shown ≠ []) ∧
    ∀ b, firstMatch beaches query = some b ↔ trim query ≠ "" ∧ shown.head? = some b := by
  intro shown
  by_cases hblank : trim query = ""
  · rw [firstMatch_of_blank hblank]
    refine ⟨iff_of_false Bool.false_ne_true fun h => h.1 hblank, fun b => ?_⟩
    exact iff_of_false nofun fun h => h.1 hblank
  · rw [firstMatch_of_ne hblank favorites]
    refine ⟨?_, fun b => (and_iff_right hblank).symm⟩
    rw [List.isSome_head?, and_iff_right hblank]

/-! ## Literal texts -/

namespace Beach

/-- A text stands in the name or in the code as it is. -/
def Holds (b : Beach) (text : String) : Prop :=
  text.toList <:+: b.name.toList ∨ text.toList <:+: b.code.toList

/-- In every list with the beach a search for the query shows it, and there is a beach to jump to. -/
def FoundBy (b : Beach) (query : String) : Prop :=
  ∀ beaches, b ∈ beaches →
    (∀ favorites, b ∈ (Filter.searching query).apply favorites beaches) ∧
      (firstMatch beaches query).isSome = true

variable {query : String}

/-- A beach is found if its name or its code has the small letters of the query among its own. -/
theorem foundBy_iff (h : trim query ≠ "") (b : Beach) : b.FoundBy query ↔
    lowercaseFrom [] (trim query).toList <:+: lowercaseFrom [] b.name.toList ∨
      lowercaseFrom [] (trim query).toList <:+: lowercaseFrom [] b.code.toList := by
  have hmatches : b.matchesQuery (needle query) = true ↔
      lowercaseFrom [] (trim query).toList <:+: lowercaseFrom [] b.name.toList ∨
        lowercaseFrom [] (trim query).toList <:+: lowercaseFrom [] b.code.toList := by
    unfold matchesQuery Text.contains needle
    rw [Bool.or_eq_true, occursIn_iff, occursIn_iff, toList_lowercase, toList_lowercase, toList_lowercase]
  rw [← hmatches]
  constructor
  · intro hfound
    obtain ⟨hshown, _⟩ := hfound [b] List.mem_cons_self
    have hmem := hshown .empty
    rw [Filter.apply_searching h] at hmem
    exact (List.mem_filter.mp hmem).2
  · intro hmatch beaches hb
    have hshown : ∀ favorites, b ∈ (Filter.searching query).apply favorites beaches := by
      intro favorites
      rw [Filter.apply_searching h]
      exact List.mem_filter.mpr ⟨hb, hmatch⟩
    refine ⟨hshown, ?_⟩
    rw [firstMatch_of_ne h .empty, List.isSome_head?]
    exact List.ne_nil_of_mem (hshown .empty)

/-- A self-contained text finds the beaches that hold it. -/
theorem Holds.foundBy {b : Beach} (holds : b.Holds (trim query)) (h : trim query ≠ "")
    (contained : SelfContained (trim query).toList) : b.FoundBy query := by
  have hinfix : ∀ {text : List Char}, (trim query).toList <:+: text →
      lowercaseFrom [] (trim query).toList <:+: lowercaseFrom [] text := by
    rintro _ ⟨before, after, rfl⟩
    exact lowercase_infix_iff.mpr contained before after
  exact (foundBy_iff h b).mpr (holds.imp hinfix hinfix)

end Beach

/-- A beach with a Greek name that begins with `ΑΣ`. -/
def asteri : Beach := Filter.sampleBeach "1" "ASTERI" "ΑΣΤΕΡΙ"

/-- **A literal text is missed.** The name of the beach begins with the query, but the sigma ends a word in
the query and none in the name. So the beach is not shown, and there is none to jump to. -/
theorem literal_text_missed :
    trim "ΑΣ" = "ΑΣ" ∧ asteri.Holds "ΑΣ" ∧ (Filter.searching "ΑΣ").apply .empty [asteri] = [] ∧
      firstMatch [asteri] "ΑΣ" = none := by
  have hname : "ΑΣ".toList <+: "ΑΣΤΕΡΙ".toList := by decide +kernel
  have hshown : ((Filter.searching "ΑΣ").apply .empty [asteri]).length = 0 := by decide +kernel
  have hjump : (firstMatch [asteri] "ΑΣ").isNone = true := by decide +kernel
  exact ⟨by decide +kernel, .inl hname.isInfix, List.eq_nil_of_length_eq_zero hshown,
    Option.isNone_iff_eq_none.mp hjump⟩

/-- **Which literal texts are found.** A query finds all beaches that hold it, without the blanks around it,
in their names or codes exactly if it is self-contained: no capital sigma of it could end a word in one
text and not in another. Every query without capital sigmas is. Any query finds a beach that holds it at a
place where its sigmas have the form that they have in the query. -/
theorem literal_text_found_iff (query : String) (h : trim query ≠ "") :
    ((∀ b : Beach, b.Holds (trim query) → b.FoundBy query) ↔ SelfContained (trim query).toList) ∧
    ('Σ' ∉ (trim query).toList → ∀ b : Beach, b.Holds (trim query) → b.FoundBy query) ∧
    ∀ (b : Beach) (before after : List Char),
      (b.name.toList = before ++ (trim query).toList ++ after ∨
        b.code.toList = before ++ (trim query).toList ++ after) →
      KeepsSigmas before.reverse after (trim query).toList → b.FoundBy query := by
  refine ⟨⟨?_, fun contained b holds => holds.foundBy h contained⟩, ?_, ?_⟩
  · intro hfound
    rw [← lowercase_infix_iff]
    intro before after
    -- a beach with this name, and with a code in which nothing is found
    let b := Filter.sampleBeach "" "" (String.ofList (before ++ (trim query).toList ++ after))
    have hname : b.name.toList = before ++ (trim query).toList ++ after := String.toList_ofList
    have holds : b.Holds (trim query) := .inl ⟨before, after, hname.symm⟩
    rcases (Beach.foundBy_iff h b).mp (hfound b holds) with hinfix | hinfix
    · rw [hname] at hinfix
      exact hinfix
    · have hnil : lowercaseFrom [] (trim query).toList = [] := List.eq_nil_of_infix_nil hinfix
      exact absurd (String.toList_eq_nil_iff.mp (lowercaseFrom_eq_nil_iff.mp hnil)) h
  · intro hnone b holds
    exact holds.foundBy h (selfContained_of_not_mem hnone)
  · intro b before after hplace hkeeps
    have hinfix := lowercase_infix_of_keepsSigmas hkeeps
    rw [Beach.foundBy_iff h]
    rcases hplace with hname | hcode
    · left
      rw [hname]
      exact hinfix
    · right
      rw [hcode]
      exact hinfix

/-- The query `ΣΑ` is self-contained and finds a beach whose name ends in it. The query `ΑΣ` is not. It
finds a beach whose name ends in it, for there the sigma ends the word too; at the beginning of the name
that it misses, its sigma has the other form. -/
theorem literal_text_found_iff_greek :
    trim " ΣΑ " ≠ "" ∧ SelfContained (trim " ΣΑ ").toList ∧
    (Filter.sampleBeach "2" "" "ΜΟΥΣΑ").Holds (trim " ΣΑ ") ∧
    (Filter.sampleBeach "2" "" "ΜΟΥΣΑ").FoundBy " ΣΑ " ∧
    trim "ΑΣ" ≠ "" ∧ ¬ SelfContained (trim "ΑΣ").toList ∧
    KeepsSigmas "ΑΘΗΝ".toList.reverse [] (trim "ΑΣ").toList ∧
    (Filter.sampleBeach "3" "" "ΑΘΗΝΑΣ").FoundBy "ΑΣ" ∧
    ¬ KeepsSigmas [] "ΤΕΡΙ".toList (trim "ΑΣ").toList := by
  have hself : SelfContained (trim " ΣΑ ").toList := by decide +kernel
  have hsuffix : (trim " ΣΑ ").toList <:+ "ΜΟΥΣΑ".toList := by decide +kernel
  have holds : (Filter.sampleBeach "2" "" "ΜΟΥΣΑ").Holds (trim " ΣΑ ") := .inl hsuffix.isInfix
  have hkeeps : KeepsSigmas "ΑΘΗΝ".toList.reverse [] (trim "ΑΣ").toList := by decide +kernel
  have hplace : "ΑΘΗΝΑΣ".toList = "ΑΘΗΝ".toList ++ (trim "ΑΣ").toList ++ [] := by decide +kernel
  have hblank : trim " ΣΑ " ≠ "" := by decide +kernel
  have hblank' : trim "ΑΣ" ≠ "" := by decide +kernel
  obtain ⟨hexact, _, _⟩ := literal_text_found_iff " ΣΑ " hblank
  obtain ⟨_, _, hat⟩ := literal_text_found_iff "ΑΣ" hblank'
  refine ⟨hblank, hself, holds, hexact.mpr hself _ holds, hblank', ?_, hkeeps,
    hat _ _ _ (.inl hplace) hkeeps, ?_⟩
  · decide +kernel
  · decide +kernel

end Shoreline
