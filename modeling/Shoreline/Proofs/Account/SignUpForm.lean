import Shoreline.Account.Form
import Shoreline.Proofs.Text.KeySet

/-!
# `Shoreline.Proofs.Account.SignUpForm` — what a form for signing up must hold

The check of an address looks for an at sign behind the first character and for a dot behind what follows it.
In an address either may stand in many places, so that it can be split in many ways; it is enough to look at
the first at sign, since every other split has its dot behind that one too. The fields are checked one by one,
and what is said about a field depends on that field alone.

## Contents
- `IsUnbroken`, `IsAddress`, the language of addresses; `isEmailAddress_iff`.
- `IsStrong`; `isStrongPassword_iff`.
- `get?_fieldMessages`: messages by field.
- `SignUpForm.Valid`, `SignUpForm.Breaks`, `SignUpForm.Says`; `exists_says_iff`, `valid_iff`.
- `SignUpForm.check_of_valid`, `SignUpForm.check_of_not_valid`.
-/

namespace Shoreline

open Text

/-! ## Addresses -/

/-- Something, and no blanks in it. -/
def IsUnbroken (s : List Char) : Prop := s ≠ [] ∧ ∀ c ∈ s, isBlank c = false

/-- Three unbroken parts, with an at sign behind the first and a dot behind the second. -/
def IsAddress (s : List Char) : Prop :=
  ∃ user host ending, s = user ++ '@' :: (host ++ '.' :: ending) ∧
    IsUnbroken user ∧ IsUnbroken host ∧ IsUnbroken ending

/-- Looking for a character stops at a given occurrence of it at the latest. -/
theorem exists_dropWhile_eq (c : Char) (u v : List Char) :
    ∃ w, (u ++ c :: v).dropWhile (· != c) = c :: (w ++ v) := by
  induction u with
  | nil => exact ⟨[], by simp⟩
  | cons a u ih =>
    by_cases hc : a = c
    · exact ⟨u ++ [c], by simp [hc]⟩
    · obtain ⟨w, hw⟩ := ih
      refine ⟨w, ?_⟩
      rw [List.cons_append, List.dropWhile_cons_of_pos (by simpa using hc), hw]

/-- A member of all but the last has something behind it. -/
theorem mem_dropLast_iff {c : Char} {s : List Char} :
    c ∈ s.dropLast ↔ ∃ u v, s = u ++ c :: v ∧ v ≠ [] := by
  constructor
  · intro h
    have hs : s ≠ [] := by
      rintro rfl
      cases h
    obtain ⟨u, v, huv⟩ := List.mem_iff_append.mp h
    refine ⟨u, v ++ [s.getLast hs], ?_, by simp⟩
    calc s = s.dropLast ++ [s.getLast hs] := (List.dropLast_concat_getLast hs).symm
      _ = u ++ c :: (v ++ [s.getLast hs]) := by rw [huv, List.append_assoc, List.cons_append]
  · rintro ⟨u, v, rfl, hv⟩
    rw [List.dropLast_append_of_ne_nil (List.cons_ne_nil c v), List.dropLast_cons_of_ne_nil hv]
    exact List.mem_append_right u List.mem_cons_self

/-- The parts of an address hold no blanks, so neither does the address. -/
theorem IsAddress.not_blank {s : List Char} (h : IsAddress s) : ∀ c ∈ s, isBlank c = false := by
  obtain ⟨user, host, ending, rfl, ⟨-, huser⟩, ⟨-, hhost⟩, ⟨-, hending⟩⟩ := h
  intro c hc
  simp only [List.mem_append, List.mem_cons] at hc
  rcases hc with hc | rfl | hc | rfl | hc
  · exact huser c hc
  · decide
  · exact hhost c hc
  · decide
  · exact hending c hc

/-- What the check looks for: no blanks, and behind the first at sign that has something in front of it
something more, a dot and something. -/
theorem isEmailAddress_iff_behind (s : List Char) : isEmailAddress s = true ↔
    (∀ c ∈ s, isBlank c = false) ∧ ∃ a host ending,
      (s.drop 1).dropWhile (· != '@') = a :: (host ++ '.' :: ending) ∧ host ≠ [] ∧ ending ≠ [] := by
  unfold isEmailAddress
  rw [Bool.and_eq_true]
  refine and_congr (by simp) ?_
  generalize (s.drop 1).dropWhile (· != '@') = behind
  split
  · next a b rest =>
    rw [List.contains_iff_mem, mem_dropLast_iff]
    constructor
    · rintro ⟨u, ending, rfl, hending⟩
      exact ⟨a, b :: u, ending, rfl, List.cons_ne_nil b u, hending⟩
    · rintro ⟨a', host, ending, heq, hhost, hending⟩
      obtain ⟨b', u, rfl⟩ := List.exists_cons_of_ne_nil hhost
      obtain ⟨-, hrest⟩ := List.cons.inj (List.cons.inj heq).2
      exact ⟨u, ending, hrest, hending⟩
  · next hshort =>
    refine iff_of_false Bool.false_ne_true ?_
    rintro ⟨a, host, ending, heq, hhost, -⟩
    obtain ⟨b, u, rfl⟩ := List.exists_cons_of_ne_nil hhost
    exact hshort a b (u ++ '.' :: ending) heq

/-- **The check finds just the addresses.** -/
theorem isEmailAddress_iff (s : List Char) : isEmailAddress s = true ↔ IsAddress s := by
  rw [isEmailAddress_iff_behind]
  constructor
  · rintro ⟨hblank, a, host, ending, hbehind, hhost, hending⟩
    obtain rfl : a = '@' := by
      have hhead := List.head?_dropWhile_not (· != '@') (s.drop 1)
      rw [hbehind] at hhead
      simpa using hhead
    -- the user is the first character with all that stands in front of the at sign
    cases s with
    | nil => cases hbehind
    | cons first rest =>
      have hsplit : first :: rest =
          (first :: rest.takeWhile (· != '@')) ++ '@' :: (host ++ '.' :: ending) := by
        have hrest : rest.dropWhile (· != '@') = '@' :: (host ++ '.' :: ending) := hbehind
        rw [List.cons_append, ← hrest, List.takeWhile_append_dropWhile]
      rw [hsplit] at hblank ⊢
      refine ⟨_, host, ending, rfl, ⟨List.cons_ne_nil _ _, ?_⟩, ⟨hhost, ?_⟩, ⟨hending, ?_⟩⟩
      · intro c hc
        exact hblank c (List.mem_append_left _ hc)
      · intro c hc
        exact hblank c (List.mem_append_right _ (List.mem_cons_of_mem _ (List.mem_append_left _ hc)))
      · intro c hc
        exact hblank c (List.mem_append_right _
          (List.mem_cons_of_mem _ (List.mem_append_right _ (List.mem_cons_of_mem _ hc))))
  · intro h
    refine ⟨h.not_blank, ?_⟩
    obtain ⟨user, host, ending, rfl, ⟨huser, -⟩, ⟨hhost, -⟩, ⟨hending, -⟩⟩ := h
    obtain ⟨first, user, rfl⟩ := List.exists_cons_of_ne_nil huser
    obtain ⟨w, hw⟩ := exists_dropWhile_eq '@' user (host ++ '.' :: ending)
    refine ⟨'@', w ++ host, ending, ?_, List.append_ne_nil_of_right_ne_nil w hhost, hending⟩
    rw [List.append_assoc]
    exact hw

/-! ## Passwords -/

/-- A small letter of ASCII. -/
def IsSmall (c : Char) : Prop := 'a' ≤ c ∧ c ≤ 'z'

/-- A capital letter of ASCII. -/
def IsCapital (c : Char) : Prop := 'A' ≤ c ∧ c ≤ 'Z'

/-- A digit of ASCII. -/
def IsFigure (c : Char) : Prop := '0' ≤ c ∧ c ≤ '9'

/-- One of the symbols for passwords. -/
def IsSymbol (c : Char) : Prop := c ∈ "@$!%*?&".toList

/-- Letters, digits and symbols only, and something of each kind. -/
structure IsStrong (s : List Char) : Prop where
  allowed : ∀ c ∈ s, IsSmall c ∨ IsCapital c ∨ IsFigure c ∨ IsSymbol c
  small : ∃ c ∈ s, IsSmall c
  capital : ∃ c ∈ s, IsCapital c
  figure : ∃ c ∈ s, IsFigure c
  symbol : ∃ c ∈ s, IsSymbol c

section Characters

variable (c : Char)

theorem isLower_iff : c.isLower = true ↔ IsSmall c := by
  show (decide ('a' ≤ c) && decide (c ≤ 'z')) = true ↔ 'a' ≤ c ∧ c ≤ 'z'
  rw [Bool.and_eq_true, decide_eq_true_iff, decide_eq_true_iff]

theorem isUpper_iff : c.isUpper = true ↔ IsCapital c :=
  decide_eq_true_iff

theorem isDigit_iff : c.isDigit = true ↔ IsFigure c := by
  show (decide ('0' ≤ c) && decide (c ≤ '9')) = true ↔ '0' ≤ c ∧ c ≤ '9'
  rw [Bool.and_eq_true, decide_eq_true_iff, decide_eq_true_iff]

theorem mem_passwordSymbols_iff : passwordSymbols.contains c = true ↔ IsSymbol c :=
  List.contains_iff_mem

theorem isAllowed_iff : (c.isAlphanum || passwordSymbols.contains c) = true ↔
    IsSmall c ∨ IsCapital c ∨ IsFigure c ∨ IsSymbol c := by
  show (((c.isUpper || c.isLower) || c.isDigit) || passwordSymbols.contains c) = true ↔ _
  rw [Bool.or_eq_true, Bool.or_eq_true, Bool.or_eq_true, isUpper_iff, isLower_iff, isDigit_iff,
    mem_passwordSymbols_iff]
  grind

end Characters

/-- **The check finds just the strong passwords.** -/
theorem isStrongPassword_iff (s : List Char) : isStrongPassword s = true ↔ IsStrong s := by
  unfold isStrongPassword
  simp only [Bool.and_eq_true, List.all_eq_true, List.any_eq_true, isAllowed_iff, isLower_iff, isUpper_iff,
    isDigit_iff, mem_passwordSymbols_iff]
  constructor
  · rintro ⟨⟨⟨⟨hallowed, hsmall⟩, hcapital⟩, hfigure⟩, hsymbol⟩
    exact ⟨hallowed, hsmall, hcapital, hfigure, hsymbol⟩
  · rintro ⟨hallowed, hsmall, hcapital, hfigure, hsymbol⟩
    exact ⟨⟨⟨⟨hallowed, hsmall⟩, hcapital⟩, hfigure⟩, hsymbol⟩

/-! ## Messages by field -/

/-- **A field has the message that is made about it**, where each field is named once. -/
theorem get?_fieldMessages {complaints : List (String × Option String)}
    (apart : (complaints.map Prod.fst).Nodup) (field message : String) :
    (fieldMessages complaints).get? field = some message ↔ (field, some message) ∈ complaints := by
  have hkeys : ((complaints.filterMap fun c => c.2.map fun message => (c.1, message)).map Prod.fst).Nodup := by
    refine List.pairwise_map.mpr (List.pairwise_filterMap.mpr ((List.pairwise_map.mp apart).imp ?_))
    intro c d hne e he e' he'
    obtain ⟨_, -, rfl⟩ := Option.map_eq_some_iff.mp he
    obtain ⟨_, -, rfl⟩ := Option.map_eq_some_iff.mp he'
    exact hne
  have hmem : (field, message) ∈ (complaints.filterMap fun c => c.2.map fun message => (c.1, message)) ↔
      (field, some message) ∈ complaints := by
    rw [List.mem_filterMap]
    constructor
    · rintro ⟨⟨k, said⟩, hc, hsaid⟩
      obtain ⟨_, rfl, heq⟩ := Option.map_eq_some_iff.mp hsaid
      cases heq
      exact hc
    · intro hc
      exact ⟨_, hc, rfl⟩
  unfold fieldMessages
  rw [SortedMap.get?_ofList hkeys, ← hmem]
  exact ⟨SortedMap.mem_of_lookup, SortedMap.lookup_of_mem hkeys⟩

/-! ## The form -/

namespace SignUpForm

/-- The form keeps all rules. -/
structure Valid (f : SignUpForm) : Prop where
  name : 2 ≤ f.name.length ∧ f.name.length ≤ 100
  email : IsAddress f.email.toList
  password : 8 ≤ f.password.length ∧ IsStrong f.password.toList

/-- The field breaks its rule. -/
inductive Breaks (f : SignUpForm) : String → Prop
  | name (h : ¬ (2 ≤ f.name.length ∧ f.name.length ≤ 100)) : Breaks f "name"
  | email (h : ¬ IsAddress f.email.toList) : Breaks f "email"
  | password (h : ¬ (8 ≤ f.password.length ∧ IsStrong f.password.toList)) : Breaks f "password"

/-- What is said about a field: that it is missing if it is empty, and else what is wrong with it; of a
password that is too short it is said that it is, whatever else is wrong. -/
inductive Says (f : SignUpForm) : String → String → Prop
  | nameMissing (missing : f.name = "") : Says f "name" "이름을 입력해 주세요."
  | nameLength (given : f.name ≠ "") (h : ¬ (2 ≤ f.name.length ∧ f.name.length ≤ 100)) :
      Says f "name" "이름은 2자 이상 100자 이하로 입력해 주세요."
  | emailMissing (missing : f.email = "") : Says f "email" "이메일을 입력해 주세요."
  | emailForm (given : f.email ≠ "") (h : ¬ IsAddress f.email.toList) :
      Says f "email" "올바른 이메일을 입력해 주세요."
  | passwordMissing (missing : f.password = "") : Says f "password" "비밀번호를 입력해 주세요."
  | passwordShort (given : f.password ≠ "") (h : f.password.length < 8) :
      Says f "password" "비밀번호는 8자 이상이어야 합니다."
  | passwordWeak (long : 8 ≤ f.password.length) (h : ¬ IsStrong f.password.toList) :
      Says f "password" "비밀번호는 대문자/소문자/숫자/특수문자를 포함해야 합니다."

variable {f : SignUpForm}

/-- An empty text is no address. -/
theorem not_isAddress_empty : ¬ IsAddress "".toList := by
  rw [← isEmailAddress_iff]
  decide

/-- **Something is said about just the fields that break their rules.** -/
theorem exists_says_iff {field : String} : (∃ message, Says f field message) ↔ Breaks f field := by
  constructor
  · rintro ⟨message, h⟩
    cases h with
    | nameMissing missing => exact .name (by rw [missing]; decide)
    | nameLength _ h => exact .name h
    | emailMissing missing => exact .email (by rw [missing]; exact not_isAddress_empty)
    | emailForm _ h => exact .email h
    | passwordMissing missing => exact .password (by rw [missing]; exact fun h => absurd h.1 (by decide))
    | passwordShort _ h => exact .password fun hvalid => absurd hvalid.1 (Nat.not_le_of_lt h)
    | passwordWeak _ h => exact .password fun hvalid => h hvalid.2
  · intro h
    cases h with
    | name h =>
      by_cases hname : f.name = ""
      · exact ⟨_, .nameMissing hname⟩
      · exact ⟨_, .nameLength hname h⟩
    | email h =>
      by_cases hemail : f.email = ""
      · exact ⟨_, .emailMissing hemail⟩
      · exact ⟨_, .emailForm hemail h⟩
    | password h =>
      by_cases hpassword : f.password = ""
      · exact ⟨_, .passwordMissing hpassword⟩
      · by_cases hlong : 8 ≤ f.password.length
        · exact ⟨_, .passwordWeak hlong fun hstrong => h ⟨hlong, hstrong⟩⟩
        · exact ⟨_, .passwordShort hpassword (Nat.lt_of_not_le hlong)⟩

/-- A form keeps all rules if no field breaks its own. -/
theorem valid_iff : f.Valid ↔ ∀ field, ¬ Breaks f field := by
  constructor
  · intro hvalid field h
    cases h with
    | name h => exact h hvalid.name
    | email h => exact h hvalid.email
    | password h => exact h hvalid.password
  · intro h
    exact ⟨Classical.not_not.mp fun hname => h _ (.name hname), Classical.not_not.mp fun hemail => h _ (.email hemail),
      Classical.not_not.mp fun hpassword => h _ (.password hpassword)⟩

/-- The complaints of the check, field by field. -/
def complaints (f : SignUpForm) : List (String × Option String) :=
  [("name", nameComplaint f.name), ("email", emailComplaint f.email),
    ("password", passwordComplaint f.password)]

theorem apart_complaints (f : SignUpForm) : (f.complaints.map Prod.fst).Nodup := by
  show ["name", "email", "password"].Nodup
  decide

theorem says_of_nameComplaint {message : String} (h : nameComplaint f.name = some message) :
    Says f "name" message := by
  unfold nameComplaint at h
  split at h
  · next hempty =>
    cases h
    exact .nameMissing (String.isEmpty_iff.mp hempty)
  · next hgiven =>
    split at h
    · cases h
    · next hlength =>
      cases h
      exact .nameLength (mt String.isEmpty_iff.mpr hgiven) hlength

theorem says_of_emailComplaint {message : String} (h : emailComplaint f.email = some message) :
    Says f "email" message := by
  unfold emailComplaint at h
  split at h
  · next hempty =>
    cases h
    exact .emailMissing (String.isEmpty_iff.mp hempty)
  · next hgiven =>
    split at h
    · cases h
    · next hform =>
      cases h
      exact .emailForm (mt String.isEmpty_iff.mpr hgiven) (mt (isEmailAddress_iff _).mpr hform)

theorem says_of_passwordComplaint {message : String} (h : passwordComplaint f.password = some message) :
    Says f "password" message := by
  unfold passwordComplaint at h
  split at h
  · next hempty =>
    cases h
    exact .passwordMissing (String.isEmpty_iff.mp hempty)
  · next hgiven =>
    split at h
    · next hshort =>
      cases h
      exact .passwordShort (mt String.isEmpty_iff.mpr hgiven) hshort
    · next hlong =>
      split at h
      · cases h
      · next hweak =>
        cases h
        exact .passwordWeak (Nat.le_of_not_lt hlong) (mt (isStrongPassword_iff _).mpr hweak)

/-- **The check complains about a field just as it should.** -/
theorem mem_complaints_iff {field message : String} :
    (field, some message) ∈ f.complaints ↔ Says f field message := by
  unfold complaints
  constructor
  · intro h
    simp only [List.mem_cons, List.not_mem_nil, or_false, Prod.mk.injEq] at h
    rcases h with ⟨rfl, h⟩ | ⟨rfl, h⟩ | ⟨rfl, h⟩
    · exact says_of_nameComplaint h.symm
    · exact says_of_emailComplaint h.symm
    · exact says_of_passwordComplaint h.symm
  · intro h
    cases h with
    | nameMissing missing => simp [nameComplaint, missing, nameRequired]
    | nameLength given h => simp [nameComplaint, given, h]
    | emailMissing missing => simp [emailComplaint, missing, emailRequired]
    | emailForm given h =>
      have hform : isEmailAddress f.email.toList = false := by simpa using mt (isEmailAddress_iff _).mp h
      simp [emailComplaint, given, hform]
    | passwordMissing missing => simp [passwordComplaint, missing, passwordRequired]
    | passwordShort given h => simp [passwordComplaint, given, h]
    | passwordWeak long h =>
      have hgiven : f.password ≠ "" := by
        intro hempty
        rw [hempty] at long
        exact absurd long (by decide)
      have hweak : isStrongPassword f.password.toList = false := by
        simpa using mt (isStrongPassword_iff _).mp h
      simp [passwordComplaint, hgiven, Nat.not_lt_of_le long, hweak]

theorem get?_complaints {field message : String} :
    (fieldMessages f.complaints).get? field = some message ↔ Says f field message :=
  (get?_fieldMessages f.apart_complaints field message).trans mem_complaints_iff

/-- **A form that keeps all rules is let pass as it is.** -/
theorem check_of_valid (h : f.Valid) : f.check = .ok f := by
  have hnone : (fieldMessages f.complaints).isEmpty = true := by
    rw [SortedMap.isEmpty_iff]
    intro field
    refine Option.eq_none_iff_forall_ne_some.mpr ?_
    intro message hsaid
    exact valid_iff.mp h field (exists_says_iff.mp ⟨message, get?_complaints.mp hsaid⟩)
  show checked f (fieldMessages f.complaints) = _
  unfold checked
  rw [if_pos hnone]

/-- **A form that breaks a rule is refused with what is to be said about it, field by field.** -/
theorem check_of_not_valid (h : ¬ f.Valid) : ∃ fields : FieldMessages, f.check = .error fields ∧
    (∀ field, fields.contains field = true ↔ Breaks f field) ∧
    ∀ field message, fields.get? field = some message ↔ Says f field message := by
  refine ⟨fieldMessages f.complaints, ?_, ?_, fun _ _ => get?_complaints⟩
  · have hsome : ¬ (fieldMessages f.complaints).isEmpty = true := by
      rw [SortedMap.isEmpty_iff]
      intro hnone
      refine h (valid_iff.mpr ?_)
      intro field hbreaks
      obtain ⟨message, hsaid⟩ := exists_says_iff.mpr hbreaks
      cases (hnone field).symm.trans (get?_complaints.mpr hsaid)
    show checked f (fieldMessages f.complaints) = _
    unfold checked
    rw [if_neg hsome]
  · intro field
    unfold SortedMap.contains
    rw [Option.isSome_iff_exists, ← exists_says_iff]
    exact exists_congr fun message => get?_complaints

end SignUpForm

end Shoreline
