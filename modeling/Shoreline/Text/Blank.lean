/-!
# `Shoreline.Text.Blank` — blank characters and trimming

Texts come from users, files, servers and the environment, and nearly all of them are trimmed
before they are looked at. Blank means the Unicode property `White_Space`: the ideographic space is
blank, the zero-width space is not. Everything works on the characters of a text; `trim` and its
relatives wrap that up for `String`.

## Contents
- `isBlank`, and `stripStart` / `stripEnd` / `strip` for any class of characters.
- `trim`, `trimWith`, `trimEndWith` on texts, and `isBlankText`.
- `lowerAscii`: the small letters of ASCII, all other characters untouched.
-/

namespace Shoreline.Text

/-- A character with the Unicode property `White_Space`. -/
def isBlank (c : Char) : Bool :=
  let n := c.toNat
  (9 ≤ n && n ≤ 13) || n == 0x20 || n == 0x85 || n == 0xA0 || n == 0x1680 ||
    (0x2000 ≤ n && n ≤ 0x200A) || n == 0x2028 || n == 0x2029 || n == 0x202F || n == 0x205F ||
    n == 0x3000

/-- No digit is blank. -/
theorem isBlank_of_isDigit {c : Char} (h : c.isDigit = true) : isBlank c = false := by
  simp only [Char.isDigit, Bool.and_eq_true, decide_eq_true_eq] at h
  have hlow : 48 ≤ c.toNat := h.1
  have hhigh : c.toNat ≤ 57 := h.2
  unfold isBlank
  simp only [Bool.or_eq_false_iff, Bool.and_eq_false_iff, decide_eq_false_iff_not, beq_eq_false_iff_ne]
  omega

/-! ## Stripping characters of a class from the ends of a list -/

variable {α : Type} (p : α → Bool)

/-- Drop the longest beginning whose members all satisfy `p`. -/
def stripStart (s : List α) : List α := s.dropWhile p

/-- Drop the longest ending whose members all satisfy `p`. -/
def stripEnd : List α → List α
  | [] => []
  | c :: s =>
    match stripEnd s with
    | [] => if p c then [] else [c]
    | d :: r => c :: d :: r

/-- Drop members that satisfy `p` from both ends. -/
def strip (s : List α) : List α := stripEnd p (stripStart p s)

/-- What `stripEnd` leaves is a beginning of the list. -/
theorem stripEnd_prefix (s : List α) : stripEnd p s <+: s := by
  induction s with
  | nil => exact List.prefix_refl _
  | cons c s ih =>
    unfold stripEnd
    split
    · split <;> simp
    · next d r h =>
      rw [h] at ih
      exact (List.prefix_cons_inj c).mpr ih

/-- Nothing is stripped from the end of a list that ends in a member outside the class. -/
theorem stripEnd_concat (s : List α) (c : α) (h : p c = false) :
    stripEnd p (s ++ [c]) = s ++ [c] := by
  induction s with
  | nil => simp [stripEnd, h]
  | cons d s ih =>
    rw [List.cons_append, stripEnd, ih]
    cases s <;> rfl

/-- Nothing is stripped from a list without members of the class. -/
theorem strip_eq_self {s : List α} (h : ∀ c ∈ s, p c = false) : strip p s = s := by
  have hstart : stripStart p s = s := by
    cases s with
    | nil => rfl
    | cons c s =>
      have hc := h c List.mem_cons_self
      exact List.dropWhile_cons_of_neg (by rw [hc]; exact Bool.false_ne_true)
  unfold strip
  rw [hstart]
  rcases List.eq_nil_or_concat s with rfl | ⟨r, c, hs⟩
  · rfl
  · rw [List.concat_eq_append] at hs
    subst hs
    exact stripEnd_concat p r c (h c (List.mem_append_right r List.mem_cons_self))

/-! ## The same on texts -/

/-- The text without the members of a class at its ends. -/
def trimWith (p : Char → Bool) (s : String) : String := String.ofList (strip p s.toList)

/-- A text without members of the class stays as it is. -/
theorem trimWith_eq_self {p : Char → Bool} {s : String} (h : ∀ c ∈ s.toList, p c = false) :
    trimWith p s = s := by
  unfold trimWith
  rw [strip_eq_self p h, String.ofList_toList]

/-- The text without the members of a class at its end. -/
def trimEndWith (p : Char → Bool) (s : String) : String := String.ofList (stripEnd p s.toList)

/-- The text without blanks at its ends. -/
def trim (s : String) : String := trimWith isBlank s

/-- A text that holds nothing but blanks, if anything. -/
def isBlankText (s : String) : Bool := s.toList.all isBlank

/-- Capital letters of ASCII become small; no other character changes. -/
def lowerAscii (s : String) : String := String.ofList (s.toList.map Char.toLower)

end Shoreline.Text
