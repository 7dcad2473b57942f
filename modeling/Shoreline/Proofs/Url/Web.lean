import Shoreline.Proofs.Url.Below

/-!
# `Shoreline.Proofs.Url.Web` — addresses that requests can be sent to

A request can be sent to an address of the web that is not too long. More parameters or a longer path make
the text of an address longer by as much as they are long themselves, and change nothing else about it. And
whatever is read as an address of the web names a host.

## Contents
- `Address.utf8ByteSize_text`: the length of an address.
- `Address.isWeb_withQuery`, `Address.isWeb_below`: more parameters, a longer path.
- `Address.utf8ByteSize_withoutCredentials_le`, `Address.isWeb_withoutCredentials`.
- `host?_ne_nil`, `exists_ownPort?`, `Address.namesHost_of_isWeb`.
-/

namespace Shoreline.Url

open Text

namespace Address

/-! ## Lengths -/

/-- The query of an address with its question mark. -/
def queryText (a : Address) : String := String.ofList ((a.query.map ('?' :: ·)).getD [])

theorem utf8ByteSize_target (a : Address) :
    a.target.utf8ByteSize = (String.ofList a.path.text).utf8ByteSize + a.queryText.utf8ByteSize := by
  unfold target queryText
  rw [String.ofList_append, String.utf8ByteSize_append]

theorem utf8ByteSize_text (a : Address) :
    a.text.utf8ByteSize = a.scheme.utf8ByteSize + 1 + a.front.utf8ByteSize +
      ((String.ofList a.path.text).utf8ByteSize + a.queryText.utf8ByteSize) +
      (String.ofList ((a.fragment.map ('#' :: ·)).getD [])).utf8ByteSize := by
  have hcolon : (":" : String).utf8ByteSize = 1 := by decide
  unfold text
  rw [String.utf8ByteSize_append, String.utf8ByteSize_append, String.utf8ByteSize_append,
    String.utf8ByteSize_append, utf8ByteSize_target, hcolon]

/-- More parameters are a longer query and nothing else. -/
theorem withQuery_eq (a : Address) (pairs : List (String × String)) :
    ∃ q, a.withQuery pairs = { a with query := some q } ∧
      (String.ofList ('?' :: q)).utf8ByteSize ≤ a.queryText.utf8ByteSize + 1 +
        ("&".intercalate (pairs.map fun p => p.1 ++ "=" ++ p.2)).utf8ByteSize := by
  have hmark : ('?' : Char).utf8Size = 1 := by decide
  have hand : ('&' : Char).utf8Size = 1 := by decide
  unfold withQuery
  dsimp only
  generalize "&".intercalate (pairs.map fun p => p.1 ++ "=" ++ p.2) = more
  split
  · next c q hq =>
    refine ⟨c :: q ++ '&' :: more.toList, rfl, ?_⟩
    unfold queryText
    rw [hq]
    simp only [Option.map_some, Option.getD_some, List.cons_append, String.ofList_cons,
      String.ofList_append, String.ofList_toList, String.utf8ByteSize_append,
      String.utf8ByteSize_singleton, hand]
    omega
  · refine ⟨more.toList, rfl, ?_⟩
    rw [String.ofList_cons, String.utf8ByteSize_append, String.utf8ByteSize_singleton,
      String.ofList_toList, hmark]
    omega

/-- An address with parameters can be asked like the one without, if it is not too long. -/
theorem isWeb_withQuery {a : Address} (h : a.isWeb = true) (pairs : List (String × String))
    (short : a.text.utf8ByteSize + 1 +
      ("&".intercalate (pairs.map fun p => p.1 ++ "=" ++ p.2)).utf8ByteSize < 65535) :
    (a.withQuery pairs).isWeb = true := by
  obtain ⟨q, hq, hsize⟩ := a.withQuery_eq pairs
  unfold isWeb at h ⊢
  rw [hq]
  rw [Bool.and_eq_true] at h ⊢
  refine ⟨h.1, decide_eq_true ?_⟩
  have hfront : Address.front { a with query := some q } = a.front := rfl
  have htext := a.utf8ByteSize_text
  have hfull := utf8ByteSize_text { a with query := some q }
  have hquery : Address.queryText { a with query := some q } = String.ofList ('?' :: q) := rfl
  rw [hfront, hquery] at hfull
  dsimp only at hfull
  omega

/-- The length of a path is that of its parts. -/
theorem utf8ByteSize_segments_append (above parts : List (List Char)) :
    (String.ofList (Path.segments (above ++ parts)).text).utf8ByteSize =
      (String.ofList (Path.segments above).text).utf8ByteSize +
        (String.ofList (Path.segments parts).text).utf8ByteSize := by
  unfold Path.text
  dsimp only
  rw [List.flatMap_append, String.ofList_append, String.utf8ByteSize_append]

/-- An address with a longer path can be asked like the one without, if it is not too long. Slashes at the
end of the path may be missing. -/
theorem isWeb_below {a : Address} (h : a.isWeb = true) (host : a.namesHost = true)
    {above parts : List (List Char)} {k : Nat} (path : a.path = .segments (above ++ List.replicate k []))
    (short : a.text.utf8ByteSize + (String.ofList (Path.segments parts).text).utf8ByteSize < 65535) :
    Address.isWeb { a with path := .segments (above ++ parts) } = true := by
  unfold isWeb at h ⊢
  rw [Bool.and_eq_true] at h ⊢
  refine ⟨h.1, decide_eq_true ?_⟩
  have hfront : Address.front { a with path := .segments (above ++ parts) } = a.front := by
    -- a host stands in front whatever the path is
    unfold namesHost at host
    unfold front
    cases hauthority : a.authority with
    | none =>
      rw [hauthority] at host
      cases host
    | some name => rfl
  have hquery : Address.queryText { a with path := .segments (above ++ parts) } = a.queryText := rfl
  have htext := a.utf8ByteSize_text
  have hlonger := utf8ByteSize_text { a with path := .segments (above ++ parts) }
  rw [path, utf8ByteSize_segments_append] at htext
  rw [hfront, hquery] at hlonger
  dsimp only at hlonger
  rw [utf8ByteSize_segments_append] at hlonger
  omega

/-- What is taken out of an address does not make it longer. -/
theorem utf8ByteSize_withoutCredentials_le (a : Address) :
    a.withoutCredentials.text.utf8ByteSize ≤ a.text.utf8ByteSize := by
  have hfront : a.withoutCredentials.front.utf8ByteSize ≤ a.front.utf8ByteSize := by
    by_cases h : a.credentials?.isSome
    · have hnone : a.withoutCredentials = { a with user := none } := by
        unfold withoutCredentials
        rw [if_pos h]
      rw [hnone]
      unfold front
      dsimp only
      cases a.authority with
      | none => rcases a.path with ⟨_ | ⟨_ | ⟨_, _⟩, _ | ⟨_, _⟩⟩⟩ | _ <;> exact Nat.le_refl _
      | some host =>
        have hempty : String.ofList ((Option.map User.text none).getD []) = "" := rfl
        simp only [hempty, String.utf8ByteSize_append, String.utf8ByteSize_empty]
        omega
    · have hself : a.withoutCredentials = a := by
        unfold withoutCredentials
        rw [if_neg h]
      rw [hself]
  have hquery : a.withoutCredentials.queryText = a.queryText := rfl
  have hbare := a.withoutCredentials.utf8ByteSize_text
  have htext := a.utf8ByteSize_text
  rw [hquery] at hbare
  dsimp only [withoutCredentials] at hbare hfront ⊢
  omega

/-- An address can be asked without the credentials in it. -/
theorem isWeb_withoutCredentials {a : Address} (h : a.isWeb = true) :
    a.withoutCredentials.isWeb = true := by
  unfold isWeb at h ⊢
  rw [Bool.and_eq_true] at h ⊢
  have hshort := a.utf8ByteSize_withoutCredentials_le
  exact ⟨h.1, decide_eq_true (Nat.lt_of_le_of_lt hshort (of_decide_eq_true h.2))⟩

end Address

/-! ## Hosts -/

/-- A number of version four has three dots in its text. -/
theorem ipv4Text_ne_nil (n : Nat) : ipv4Text n ≠ [] := by
  simp [ipv4Text]

theorem host?_ne_nil {s name : List Char} (h : host? s = some name) : name ≠ [] := by
  unfold host? at h
  split at h
  · -- a number of version six stands in brackets
    unfold bracketed? at h
    split at h
    · obtain ⟨groups, _, rfl⟩ := Option.map_eq_some_iff.mp h
      unfold ipv6Text
      exact List.cons_ne_nil _ _
    · cases h
  · split at h
    · cases h
    · next found hfound =>
      split at h
      · cases h
      · next hnil =>
        split at h
        · unfold ipv4? at h
          obtain ⟨parts, _, h⟩ := Option.bind_eq_some_iff.mp h
          obtain ⟨last, _, h⟩ := Option.bind_eq_some_iff.mp h
          dsimp only at h
          split at h
          · cases h
          · rw [← Option.some.inj h]
            exact ipv4Text_ne_nil _
        · rw [← Option.some.inj h]
          exact fun hempty => hnil (List.isEmpty_iff.mpr hempty)

/-- What stands in front of a path in the network is not empty. -/
theorem hostAndPort?_ne_empty {port : Nat} {s : List Char} {host : String}
    (h : hostAndPort? host? port s = some host) : host ≠ "" := by
  unfold hostAndPort? at h
  dsimp only at h
  obtain ⟨name, hname, h⟩ := Option.bind_eq_some_iff.mp h
  obtain ⟨port', _, h⟩ := Option.bind_eq_some_iff.mp h
  have hne := host?_ne_nil hname
  intro hempty
  rw [← String.toList_inj] at hempty
  cases port' with
  | none =>
    rw [← Option.some.inj h, String.toList_ofList] at hempty
    exact hne hempty
  | some n =>
    rw [← Option.some.inj h, String.toList_ofList] at hempty
    exact hne (List.append_eq_nil_iff.mp hempty).1

/-- A scheme of the web has a port of its own. -/
theorem exists_ownPort? {scheme : String} (h : scheme = "http" ∨ scheme = "https") :
    ∃ port, ownPort? scheme = some port := by
  rcases h with rfl | rfl
  · exact ⟨80, by decide⟩
  · exact ⟨443, by decide⟩

namespace Address

theorem scheme_of_isWeb {a : Address} (h : a.isWeb = true) : a.scheme = "http" ∨ a.scheme = "https" := by
  unfold isWeb at h
  rw [Bool.and_eq_true, Bool.and_eq_true, List.contains_iff_mem] at h
  simpa using h.1.1

/-- **An address of the web names a host.** -/
theorem namesHost_of_isWeb {s : String} {a : Address} (h : Address.parse? s = some a)
    (web : a.isWeb = true) : a.namesHost = true := by
  obtain ⟨port, own⟩ := exists_ownPort? (scheme_of_isWeb web)
  obtain ⟨scheme, user, authority, path, query, fragment⟩ := a
  obtain ⟨rest, _, hnetwork, _⟩ := (parse?_network_iff own s user authority path query fragment).mp h
  unfold network? at hnetwork
  dsimp only at hnetwork
  obtain ⟨host, hhost, hfound⟩ := Option.bind_eq_some_iff.mp hnetwork
  obtain ⟨-, hauthority⟩ := Prod.mk.inj (Option.some.inj hfound)
  obtain ⟨rfl, -⟩ := Prod.mk.inj hauthority
  exact decide_eq_true (hostAndPort?_ne_empty hhost)

end Address

end Shoreline.Url
