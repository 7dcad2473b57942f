import Mathlib.Data.List.TakeDrop
import Mathlib.Data.List.TakeWhile
import Shoreline.Proofs.Url.Path
import Shoreline.Settings

/-!
# `Shoreline.Proofs.Url.Below` — addresses below a base

The addresses of resources are made by appending a path to the text of a base address. What comes of such a
text is said here once: scheme, host and port are those of the base, and the path is that of the base,
without slashes at its end, followed by the segments that were appended, as far as they hold no dot
segments; those are resolved like all others.

## Contents
- `takeWhile_append_of_stop`, `strip_of_getLast`: what is appended does not change how a text begins.
- The stages of `parse?`: `scheme?_append`, `beforeMarks_append`, `network?_append`, `readable_append`.
- `parse?_network_iff`, `parse?_eq_some_iff`: the parts of an address of a network.
- `Reads` with `Reads.parse?` and `reads_of_parse?`: a text is an address as far as its authority.
- `parse?_below`; `exists_parse?_above`: the user in front of the host is the same above and below.
-/

namespace Shoreline.Url

open Text

/-! ## What is appended -/

section Appended

variable {p : Char → Bool} {s r : List Char}

/-- What begins with a character outside the class does not lengthen the beginning of a text. -/
theorem takeWhile_append_of_stop (h : ∀ c ∈ r.head?, p c = false) :
    (s ++ r).takeWhile p = s.takeWhile p := by
  have hr : r.takeWhile p = [] := by
    cases r with
    | nil => rfl
    | cons c r => exact List.takeWhile_cons_of_neg (by rw [h c rfl]; exact Bool.false_ne_true)
  rw [List.takeWhile_append]
  split
  · next hall =>
    rw [hr, List.append_nil]
    exact ((List.takeWhile_prefix p).eq_of_length hall).symm
  · rfl

theorem dropWhile_append_of_stop (h : ∀ c ∈ r.head?, p c = false) :
    (s ++ r).dropWhile p = s.dropWhile p ++ r := by
  have hr : r.dropWhile p = r := by
    cases r with
    | nil => rfl
    | cons c r => exact List.dropWhile_cons_of_neg (by rw [h c rfl]; exact Bool.false_ne_true)
  rw [List.dropWhile_append]
  split
  · next hnil => rw [hr, List.isEmpty_iff.mp hnil, List.nil_append]
  · rfl

/-- What is dropped from the end is of the class. -/
theorem exists_stripEnd_append (p : Char → Bool) (s : List Char) :
    ∃ r, s = stripEnd p s ++ r ∧ ∀ c ∈ r, p c = true := by
  induction s with
  | nil => exact ⟨[], rfl, List.forall_mem_nil _⟩
  | cons c s ih =>
    obtain ⟨r, hs, hr⟩ := ih
    rw [stripEnd]
    split
    · next hnil =>
      rw [hnil, List.nil_append] at hs
      split
      · next hc => exact ⟨c :: s, rfl, List.forall_mem_cons.mpr ⟨hc, hs ▸ hr⟩⟩
      · exact ⟨s, rfl, hs ▸ hr⟩
    · next d t hcons =>
      refine ⟨r, ?_, hr⟩
      rw [hcons] at hs
      rw [hs]
      rfl

/-- Only the beginning of a text is stripped if its end is not of the class. -/
theorem strip_of_getLast (h : ∀ c ∈ s.getLast?, p c = false) : strip p s = s.dropWhile p := by
  rcases List.eq_nil_or_concat s with rfl | ⟨t, c, hs⟩
  · rfl
  · rw [List.concat_eq_append] at hs
    subst hs
    have hc : p c = false := h c (by rw [List.getLast?_concat]; rfl)
    have hstart : (t ++ [c]).dropWhile p = t.dropWhile p ++ [c] :=
      dropWhile_append_of_stop fun d hd => Option.some.inj hd ▸ hc
    unfold strip stripStart
    rw [hstart, stripEnd_concat p _ c hc]

end Appended

/-! ## The stages of reading -/

section Stages

variable {r : List Char}

/-- The scheme is found in front of what is appended. -/
theorem scheme?_append (slash : ∀ c ∈ r.head?, c = '/') (s : List Char) :
    Address.scheme? (s ++ r) = (Address.scheme? s).map fun found => (found.1, found.2 ++ r) := by
  unfold Address.scheme?
  dsimp only
  have hstop : ∀ c ∈ r.head?, (c.isAlphanum || c = '+' || c = '-' || c = '.') = false := by
    intro c hc
    rw [slash c hc]
    rfl
  rw [takeWhile_append_of_stop hstop,
    List.drop_append_of_le_length (List.takeWhile_prefix _).length_le]
  cases s.takeWhile (fun c => c.isAlphanum || c = '+' || c = '-' || c = '.') with
  | nil => rfl
  | cons c name =>
    cases s.drop (c :: name).length with
    | nil =>
      cases r with
      | nil => rfl
      | cons d r =>
        obtain rfl := slash d rfl
        rfl
    | cons d rest =>
      by_cases hd : d = ':'
      · subst hd
        show (if c.isAlpha then some (_, rest ++ r) else none) =
          Option.map _ (if c.isAlpha then some (_, rest) else none)
        cases c.isAlpha <;> rfl
      · rw [List.cons_append]
        split
        · next h => exact absurd (List.cons.inj h).1 hd
        · split
          · next h => exact absurd (List.cons.inj h).1 hd
          · rfl

theorem cut_fst (c : Char) (s : List Char) : (cut c s).1 = s.takeWhile (· != c) := by
  unfold cut
  rw [List.span_eq_takeWhile_dropWhile]
  cases s.dropWhile (· != c) <;> rfl

theorem cut_eq_self {c : Char} {s : List Char} (h : c ∉ s) : cut c s = (s, none) := by
  have hall : ∀ d ∈ s, (d != c) = true := by
    intro d hd
    rw [bne_iff_ne]
    rintro rfl
    exact h hd
  unfold cut
  rw [List.span_eq_takeWhile_dropWhile, List.takeWhile_eq_self_iff.mpr hall,
    List.dropWhile_eq_nil_iff.mpr hall]

/-- A text that is not cut does not hold the character. -/
theorem not_mem_of_cut {c : Char} {s : List Char} (h : (cut c s).2 = none) : c ∉ s := by
  intro hmem
  unfold cut at h
  rw [List.span_eq_takeWhile_dropWhile] at h
  cases hdrop : s.dropWhile (· != c) with
  | nil =>
    have hne := List.dropWhile_eq_nil_iff.mp hdrop c hmem
    rw [bne_self_eq_false] at hne
    cases hne
  | cons d rest =>
    rw [hdrop] at h
    cases h

/-- What is appended behind the place of the cut does not matter. -/
theorem cut_fst_append {c : Char} {s : List Char} (h : c ∈ s) (r : List Char) :
    (cut c (s ++ r)).1 = (cut c s).1 := by
  have hshort : ¬ (s.takeWhile (· != c)).length = s.length := by
    intro hall
    have hself := (List.takeWhile_prefix (· != c)).eq_of_length hall
    have hne := List.takeWhile_eq_self_iff.mp hself c h
    rw [bne_self_eq_false] at hne
    cases hne
  rw [cut_fst, cut_fst, List.takeWhile_append, if_neg hshort]

/-- What stands in front of query and fragment. -/
def beforeMarks (s : List Char) : List Char := (cut '?' (cut '#' s).1).1

theorem beforeMarks_eq_self {s : List Char} (hash : '#' ∉ s) (question : '?' ∉ s) : beforeMarks s = s := by
  unfold beforeMarks
  rw [cut_eq_self hash, cut_eq_self question]

/-- **What may stand in a path begins neither query nor fragment.** So it is in front of them, or the text
that it is appended to has one already and it is part of that. -/
theorem beforeMarks_append (s : List Char) :
    (∀ r, (∀ c ∈ r, isPathChar c = true) → beforeMarks (s ++ r) = s ++ r) ∨
      ∀ r, (∀ c ∈ r, isPathChar c = true) → beforeMarks (s ++ r) = beforeMarks s := by
  have happend : ∀ {c : Char} {r : List Char}, isPathChar c = false → (∀ d ∈ r, isPathChar d = true) →
      c ∉ s → c ∉ s ++ r := by
    intro c r hc path hs hmem
    rcases List.mem_append.mp hmem with hold | hnew
    · exact hs hold
    · rw [path c hnew] at hc
      cases hc
  by_cases hash : '#' ∈ s
  · right
    intro r _
    unfold beforeMarks
    rw [cut_fst_append hash]
  · by_cases question : '?' ∈ s
    · right
      intro r path
      unfold beforeMarks
      rw [cut_eq_self (happend (by decide) path hash), cut_eq_self hash, cut_fst_append question]
    · left
      intro r path
      exact beforeMarks_eq_self (happend (by decide) path hash) (happend (by decide) path question)

/-- The authority in a text behind a scheme. -/
def authorityText (rest : List Char) : List Char := (rest.dropWhile isSlash).takeWhile (!isSlash ·)

/-- The path behind the authority. -/
def behindAuthority (rest : List Char) : List Char := (rest.dropWhile isSlash).dropWhile (!isSlash ·)

theorem pathText_behindAuthority (rest : List Char) : PathText (behindAuthority rest) := by
  intro c hc
  have hstop := List.head?_dropWhile_not (!isSlash ·) (rest.dropWhile isSlash)
  unfold behindAuthority at hc
  rw [hc] at hstop
  simpa using hstop

/-- No host is named by an empty authority. -/
theorem hostAndPort?_nil (port : Option Nat) : hostAndPort? host? port (withoutUser []) = none := by
  have hhost : host? [] = none := by decide +kernel
  unfold hostAndPort?
  show (host? []).bind _ = none
  rw [hhost]
  rfl

/-- Slashes alone name no authority. -/
theorem network?_slashes {s : List Char} (h : ∀ c ∈ s, isSlash c = true) (port : Nat) :
    Address.network? port s = none := by
  have hstart : stripStart isSlash s = [] := List.dropWhile_eq_nil_iff.mpr h
  unfold Address.network?
  rw [hstart]
  show (hostAndPort? host? port (withoutUser [])).bind _ = none
  rw [hostAndPort?_nil]
  rfl

/-- User, authority and path where something is appended to a text that names an authority. -/
theorem network?_append (slash : ∀ c ∈ r.head?, c = '/') {s : List Char}
    (h : s.dropWhile isSlash ≠ []) (port : Nat) :
    Address.network? port (s ++ r) =
      (hostAndPort? host? port (withoutUser (authorityText s))).map fun host =>
        (userOf (authorityText s), some host,
          .segments (pathSegments isSlash (behindAuthority s ++ r))) := by
  have hstart : stripStart isSlash (s ++ r) = s.dropWhile isSlash ++ r := by
    unfold stripStart
    rw [List.dropWhile_append, if_neg (by simpa using h)]
  have hstop : ∀ c ∈ r.head?, (!isSlash c) = false := by
    intro c hc
    rw [slash c hc]
    rfl
  unfold Address.network?
  rw [hstart]
  simp only [List.span_eq_takeWhile_dropWhile, takeWhile_append_of_stop hstop,
    dropWhile_append_of_stop hstop]
  show (hostAndPort? host? port (withoutUser (authorityText s))).bind _ = _
  cases hostAndPort? host? port (withoutUser (authorityText s)) <;> rfl

end Stages

/-! ## Addresses below an address -/

theorem eq_slash_of_head?_slashes {j : Nat} : ∀ c ∈ (List.replicate j '/').head?, c = '/' :=
  fun _ hc => List.eq_of_mem_replicate (List.mem_of_head? hc)

theorem isPathChar_of_mem_slashes {j : Nat} : ∀ c ∈ List.replicate j '/', isPathChar c = true := by
  intro c hc
  rw [List.eq_of_mem_replicate hc, isPathChar_slash]

/-- What is read of a text: blanks and control characters around it do not count, and line ends do not
count anywhere. -/
def readable (s : List Char) : List Char :=
  (strip (fun c => c.toNat ≤ 0x20) s).filter (fun c => c ≠ '\t' && c ≠ '\n' && c ≠ '\r')

/-- **The parts of an address** of a network. -/
theorem parse?_network_iff {scheme : String} {port : Nat} (hport : ownPort? scheme = some port) (s : String)
    (user : Option User) (authority : Option String) (path : Path) (query fragment : Option (List Char)) :
    Address.parse? s = some ⟨scheme, user, authority, path, query, fragment⟩ ↔
      ∃ rest, Address.scheme? (readable s.toList) = some (scheme, rest) ∧
        Address.network? port (beforeMarks rest) = some (user, authority, path) ∧
        (cut '?' (cut '#' rest).1).2.map (encode (isQueryChar true)) = query ∧
        (cut '#' rest).2.map (encode isFragmentChar) = fragment := by
  unfold Address.parse? readable
  constructor
  · intro h
    obtain ⟨⟨scheme', rest⟩, hscheme, h⟩ := Option.bind_eq_some_iff.mp h
    dsimp only at h
    cases hown : ownPort? scheme' with
    | none =>
      -- then it is no address of a network
      exfalso
      rw [hown] at h
      have hsame : scheme' = scheme := by
        dsimp only at h
        split at h
        · obtain ⟨found, -, hfound⟩ := Option.bind_eq_some_iff.mp h
          exact congrArg Address.scheme (Option.some.inj hfound)
        · obtain ⟨found, -, hfound⟩ := Option.bind_eq_some_iff.mp h
          exact congrArg Address.scheme (Option.some.inj hfound)
      rw [hsame, hport] at hown
      cases hown
    | some port' =>
      rw [hown] at h
      obtain ⟨⟨user', authority', path'⟩, hnetwork, hfound⟩ := Option.bind_eq_some_iff.mp h
      obtain ⟨rfl, rfl, rfl, rfl, hquery, hfragment⟩ := Address.mk.inj (Option.some.inj hfound)
      obtain rfl : port' = port := Option.some.inj (hown.symm.trans hport)
      exact ⟨rest, hscheme, hnetwork, hquery, hfragment⟩
  · rintro ⟨rest, hscheme, hnetwork, rfl, rfl⟩
    unfold beforeMarks at hnetwork
    simp only [hscheme, Option.bind_eq_bind, Option.bind_some, hport, hnetwork]
    rfl

/-- The parts of one that has neither a query nor a fragment. -/
theorem parse?_eq_some_iff {scheme : String} {port : Nat} (hport : ownPort? scheme = some port) (s : String)
    (user : Option User) (authority : Option String) (path : Path) :
    Address.parse? s = some ⟨scheme, user, authority, path, none, none⟩ ↔
      ∃ rest, Address.scheme? (readable s.toList) = some (scheme, rest) ∧ '#' ∉ rest ∧ '?' ∉ rest ∧
        Address.network? port rest = some (user, authority, path) := by
  rw [parse?_network_iff hport]
  refine exists_congr fun rest => and_congr_right fun _ => ?_
  constructor
  · rintro ⟨hnetwork, hquery, hfragment⟩
    have hhash := not_mem_of_cut (Option.map_eq_none_iff.mp hfragment)
    rw [cut_eq_self hhash] at hquery
    have hquestion := not_mem_of_cut (Option.map_eq_none_iff.mp hquery)
    rw [beforeMarks_eq_self hhash hquestion] at hnetwork
    exact ⟨hhash, hquestion, hnetwork⟩
  · rintro ⟨hhash, hquestion, hnetwork⟩
    rw [beforeMarks_eq_self hhash hquestion, cut_eq_self hhash, cut_eq_self hquestion]
    exact ⟨hnetwork, rfl, rfl⟩

/-- What is read of the beginning of a text. -/
def readableStart (s : List Char) : List Char :=
  (s.dropWhile (fun c => c.toNat ≤ 0x20)).filter (fun c => c ≠ '\t' && c ≠ '\n' && c ≠ '\r')

/-- Whatever may stand in a path is read. -/
theorem filter_path {r : List Char} (path : ∀ c ∈ r, isPathChar c = true) :
    r.filter (fun c => c ≠ '\t' && c ≠ '\n' && c ≠ '\r') = r := by
  refine List.filter_eq_self.mpr fun c hc => ?_
  have hlow := toNat_of_isPathChar (path c hc)
  simp only [Bool.and_eq_true, decide_eq_true_eq]
  refine ⟨⟨?_, ?_⟩, ?_⟩
  all_goals
    rintro rfl
    exact absurd hlow (by decide)

/-- What is appended to a text is read as it is, if it begins with a slash and may stand in a path. -/
theorem readable_append {s r : List Char} (slash : ∀ c ∈ r.head?, c = '/')
    (path : ∀ c ∈ r, isPathChar c = true)
    (last : ∀ c ∈ (s ++ r).getLast?, decide (c.toNat ≤ 0x20) = false) :
    readable (s ++ r) = readableStart s ++ r := by
  have hstop : ∀ c ∈ r.head?, decide (c.toNat ≤ 0x20) = false := by
    intro c hc
    rw [slash c hc]
    rfl
  unfold readable
  rw [strip_of_getLast last, dropWhile_append_of_stop hstop, List.filter_append, filter_path path]
  rfl

/-- How a text begins that is the address of a network as far as its authority. -/
structure Reads (s : List Char) (scheme : String) (port : Nat) (host : String) (rest : List Char) :
    Prop where
  found : Address.scheme? (readableStart s) = some (scheme, rest)
  own : ownPort? scheme = some port
  hash : '#' ∉ rest
  question : '?' ∉ rest
  named : rest.dropWhile isSlash ≠ []
  host : hostAndPort? host? port (withoutUser (authorityText rest)) = some host

section Reads

variable {s r : List Char} {scheme host : String} {port : Nat} {rest : List Char}

/-- What follows belongs to the path, if it begins with a slash and may stand there. -/
theorem Reads.parse? (h : Reads s scheme port host rest) (slash : ∀ c ∈ r.head?, c = '/')
    (path : ∀ c ∈ r, isPathChar c = true)
    (last : ∀ c ∈ (s ++ r).getLast?, decide (c.toNat ≤ 0x20) = false) :
    Address.parse? (String.ofList (s ++ r)) =
      some ⟨scheme, userOf (authorityText rest), some host,
        .segments (pathSegments isSlash (behindAuthority rest ++ r)), none, none⟩ := by
  have hpath : ∀ {c : Char}, isPathChar c = false → c ∉ rest → c ∉ rest ++ r := by
    intro c hc hrest hmem
    rcases List.mem_append.mp hmem with hold | hnew
    · exact hrest hold
    · rw [path c hnew] at hc
      cases hc
  refine (parse?_eq_some_iff h.own _ _ _ _).mpr ⟨rest ++ r, ?_, ?_, ?_, ?_⟩
  · rw [String.toList_ofList, readable_append slash path last, scheme?_append slash, h.found]
    rfl
  · exact hpath (by decide) h.hash
  · exact hpath (by decide) h.question
  · rw [network?_append slash h.named, h.host]
    rfl

/-- **An address that may end in slashes** is read as it is without them, but for its path. -/
theorem reads_of_parse? {j : Nat} {user : Option User} {authority : Option String} {path : Path}
    (h : Address.parse? (String.ofList (s ++ List.replicate j '/')) =
      some ⟨scheme, user, authority, path, none, none⟩) (own : ownPort? scheme = some port)
    (last : ∀ c ∈ (s ++ List.replicate j '/').getLast?, decide (c.toNat ≤ 0x20) = false) :
    ∃ host rest, Reads s scheme port host rest := by
  have hslash := eq_slash_of_head?_slashes (j := j)
  obtain ⟨whole, hscheme, hhash, hquestion, hnetwork⟩ := (parse?_eq_some_iff own _ _ _ _).mp h
  rw [String.toList_ofList, readable_append hslash isPathChar_of_mem_slashes last,
    scheme?_append hslash] at hscheme
  obtain ⟨⟨scheme', rest⟩, hfound, hpair⟩ := Option.map_eq_some_iff.mp hscheme
  obtain ⟨rfl, rfl⟩ := Prod.mk.inj hpair
  have hnamed : rest.dropWhile isSlash ≠ [] := by
    intro hnil
    have hall : ∀ c ∈ rest ++ List.replicate j '/', isSlash c = true := by
      intro c hc
      rcases List.mem_append.mp hc with hold | hnew
      · exact List.dropWhile_eq_nil_iff.mp hnil c hold
      · rw [List.eq_of_mem_replicate hnew, isSlash_slash]
    rw [network?_slashes hall] at hnetwork
    cases hnetwork
  rw [network?_append hslash hnamed] at hnetwork
  obtain ⟨host, hhost, -⟩ := Option.map_eq_some_iff.mp hnetwork
  exact ⟨host, rest, hfound, own, fun hmem => hhash (List.mem_append_left _ hmem),
    fun hmem => hquestion (List.mem_append_left _ hmem), hnamed, hhost⟩

end Reads

/-- A text that ends in a path does not end in a blank. -/
theorem not_blank_of_getLast? {s r : List Char} (path : ∀ c ∈ '/' :: r, isPathChar c = true) :
    ∀ c ∈ (s ++ '/' :: r).getLast?, decide (c.toNat ≤ 0x20) = false := by
  intro c hc
  have hlast : ('/' :: r).getLast? = some c := by
    rw [List.getLast?_append, List.getLast?_cons, Option.some_or] at hc
    rw [List.getLast?_cons]
    exact hc
  exact decide_eq_false (Nat.not_le.mpr (toNat_of_isPathChar (path c (List.mem_of_getLast? hlast))))

/-- Segments with slashes between them may stand in a path if their characters may. -/
theorem isPathChar_of_mem_intercalate {parts : List (List Char)}
    (h : ∀ part ∈ parts, ∀ c ∈ part, isPathChar c = true) :
    ∀ c ∈ ['/'].intercalate parts, isPathChar c = true := by
  intro c hc
  rcases mem_intercalate hc with rfl | ⟨part, hpart, hc⟩
  · exact isPathChar_slash
  · exact h part hpart c hc

/-- Only slashes are dropped from a base. -/
theorem exists_trimSlashes (base : String) :
    ∃ j, base = String.ofList ((trimSlashes base).toList ++ List.replicate j '/') := by
  obtain ⟨slashes, hsplit, hall⟩ := exists_stripEnd_append (· = '/') base.toList
  have hslashes : slashes = List.replicate slashes.length '/' :=
    List.eq_replicate_of_mem fun c hc => of_decide_eq_true (hall c hc)
  refine ⟨slashes.length, ?_⟩
  unfold trimSlashes trimEndWith
  rw [String.toList_ofList, ← hslashes, ← hsplit, String.ofList_toList]

/-- **Addresses below a base.** Where a base address of a network has neither a query nor a fragment, and
its text does not end in a blank or a control character, segments that are appended to its text, less the
slashes at its end, lead to an address that differs from it in the path alone: below the path of the base,
less empty segments at its end, the segments are resolved. -/
theorem parse?_below {base : String} {a : Address} (h : Address.parse? base = some a) {port : Nat}
    (own : ownPort? a.scheme = some port) (query : a.query = none) (fragment : a.fragment = none)
    (last : ∀ c ∈ base.toList.getLast?, 0x20 < c.toNat) :
    ∃ above k, a.path = .segments (above ++ List.replicate k []) ∧ (∀ s ∈ above, Undotted s) ∧
      ∀ parts, parts ≠ [] →
        (∀ part ∈ parts, ∀ c ∈ part, isPathChar c = true ∧ isSlash c = false) →
        Address.parse? (trimSlashes base ++ "/" ++ String.ofList (['/'].intercalate parts)) =
          some { a with path := .segments (resolve above.reverse parts) } := by
  obtain ⟨scheme, user, authority, path, q, f⟩ := a
  obtain rfl : q = none := query
  obtain rfl : f = none := fragment
  obtain ⟨j, hbase⟩ := exists_trimSlashes base
  generalize trimSlashes base = b at hbase ⊢
  subst hbase
  rw [String.toList_ofList] at last
  have hlast : ∀ c ∈ (b.toList ++ List.replicate j '/').getLast?, decide (c.toNat ≤ 0x20) = false :=
    fun c hc => decide_eq_false (Nat.not_le.mpr (last c hc))
  obtain ⟨host, rest, hreads⟩ := reads_of_parse? h own hlast
  have hparsed := hreads.parse? eq_slash_of_head?_slashes isPathChar_of_mem_slashes hlast
  obtain ⟨-, rfl, rfl, rfl, -, -⟩ := Address.mk.inj (Option.some.inj (h.symm.trans hparsed))
  obtain ⟨k, hk⟩ := pathSegments_slashes (pathText_behindAuthority rest) j
  refine ⟨pathBase (behindAuthority rest), k, congrArg Path.segments hk, undotted_pathBase _, ?_⟩
  intro parts hne hparts
  have htext : b ++ "/" ++ String.ofList (['/'].intercalate parts) =
      String.ofList (b.toList ++ '/' :: ['/'].intercalate parts) := by
    simp only [← String.toList_inj, String.toList_append, String.toList_ofList, List.append_assoc]
    rfl
  have hpath : ∀ c ∈ '/' :: ['/'].intercalate parts, isPathChar c = true :=
    List.forall_mem_cons.mpr ⟨isPathChar_slash,
      isPathChar_of_mem_intercalate fun part hpart c hc => (hparts part hpart c hc).1⟩
  have hslash : ∀ c ∈ ('/' :: ['/'].intercalate parts).head?, c = '/' := by
    rintro c ⟨⟩
    rfl
  rw [htext, hreads.parse? hslash hpath (not_blank_of_getLast? hpath),
    pathSegments_below (pathText_behindAuthority rest) hne hparts]

/-! ## The user of addresses below a base -/

/-- What follows a slash behind the authority does not change the user. -/
theorem exists_network?_above {s r : List Char} (slash : ∀ c ∈ r.head?, c = '/')
    (named : s.dropWhile isSlash ≠ []) {port : Nat} {user : Option User} {authority : Option String}
    {path : Path} (h : Address.network? port (s ++ r) = some (user, authority, path)) :
    ∃ path', Address.network? port s = some (user, authority, path') := by
  rw [network?_append slash named] at h
  obtain ⟨host, hhost, hfound⟩ := Option.map_eq_some_iff.mp h
  cases hfound
  have habove := network?_append (r := []) nofun named port
  rw [List.append_nil, hhost] at habove
  exact ⟨_, habove⟩

/-- **Whatever path follows, the user in front of the host is the same.** The text may hold a query or a
fragment; what is appended is part of them then. -/
theorem exists_parse?_above {s p r : List Char} (named : ∃ c ∈ p, isSlash c = false)
    (slash : ∀ c ∈ r.head?, c = '/') (path : ∀ c ∈ p ++ r, isPathChar c = true) {a : Address} {port : Nat}
    (own : ownPort? a.scheme = some port)
    (h : Address.parse? (String.ofList (s ++ '/' :: (p ++ r))) = some a) :
    ∃ above, Address.parse? (String.ofList (s ++ '/' :: p)) = some above ∧ above.user = a.user := by
  have hpath : ∀ c ∈ '/' :: (p ++ r), isPathChar c = true :=
    List.forall_mem_cons.mpr ⟨isPathChar_slash, path⟩
  have hpath' : ∀ c ∈ '/' :: p, isPathChar c = true :=
    fun c hc => hpath c (List.cons_subset_cons _ (List.subset_append_left p r) hc)
  have hslash : ∀ q : List Char, ∀ c ∈ ('/' :: q).head?, c = '/' := fun _ _ hc => (Option.some.inj hc).symm
  obtain ⟨scheme, user, authority, path', query, fragment⟩ := a
  obtain ⟨whole, hscheme, hnetwork, -, -⟩ := (parse?_network_iff own _ _ _ _ _ _).mp h
  rw [String.toList_ofList, readable_append (hslash _) hpath (not_blank_of_getLast? hpath),
    scheme?_append (hslash _)] at hscheme
  obtain ⟨⟨scheme', rest⟩, hfound, hpair⟩ := Option.map_eq_some_iff.mp hscheme
  obtain ⟨rfl, rfl⟩ := Prod.mk.inj hpair
  -- up to the marks the shorter text is that of the longer one, or as much shorter
  have habove : ∃ path'', Address.network? port (beforeMarks (rest ++ '/' :: p)) =
      some (user, authority, path'') := by
    rcases beforeMarks_append rest with hfront | hbehind
    · rw [hfront _ hpath, ← List.cons_append, ← List.append_assoc] at hnetwork
      rw [hfront _ hpath']
      refine exists_network?_above slash (fun hnil => ?_) hnetwork
      obtain ⟨c, hc, hplain⟩ := named
      have hall := List.dropWhile_eq_nil_iff.mp hnil c
        (List.mem_append_right rest (List.mem_cons_of_mem '/' hc))
      rw [hplain] at hall
      cases hall
    · rw [hbehind _ hpath] at hnetwork
      rw [hbehind _ hpath']
      exact ⟨_, hnetwork⟩
  obtain ⟨path'', habove⟩ := habove
  refine ⟨⟨scheme', user, authority, path'', _, _⟩,
    (parse?_network_iff own _ _ _ _ _ _).mpr ⟨rest ++ '/' :: p, ?_, habove, rfl, rfl⟩, rfl⟩
  rw [String.toList_ofList, readable_append (hslash _) hpath' (not_blank_of_getLast? hpath'),
    scheme?_append (hslash _), hfound]
  rfl

end Shoreline.Url
