import Shoreline.Push

/-!
# `Shoreline.Proofs.Push.Origin` — which window a click on a notification goes to

A click goes to the first window whose address begins with the text of the origin. An address on the origin
is the origin itself, or goes on with a slash, a question mark or a hash. But an address whose text goes on
in another way begins with the origin as well: with a dot the host is longer, with a colon there is a port,
with an at sign the host has not even begun. Such a window takes the click, unless a window on the origin
stands before it.

## Contents
- `stripEnd_append`: what is of the class is dropped from the end.
- `Origin`, `Origin.text`, `slashes`; `Origin.trimEndWith_text`.
- `IsOn`: addresses on an origin; `isOn_append_iff`.
- `Leads`: where a click ought to go, given which windows are its own; `Leads.unique`, `Leads.narrow_iff`.
- `click_stays_home_iff`, with windows of other origins between, and `lookalike_takes_click`.
-/

namespace Shoreline.Push

open Text

/-! ## Origins -/

/-- An origin: a scheme, a host without slashes, and perhaps a port of digits. -/
structure Origin where
  scheme : String
  host : String
  port : Option String
  host_ne : host ≠ ""
  host_plain : '/' ∉ host.toList
  port_digits : ∀ p ∈ port, ∀ c ∈ p.toList, c.isDigit = true

/-- The text of an origin. -/
def Origin.text (o : Origin) : String := o.scheme ++ "://" ++ o.host ++ o.port.elim "" (":" ++ ·)

/-- So many slashes. -/
def slashes (k : Nat) : String := String.ofList (List.replicate k '/')

/-- Members of the class are dropped from the end, however many there are. -/
theorem stripEnd_append {p : Char → Bool} {r : List Char} (h : ∀ c ∈ r, p c = true) (s : List Char) :
    stripEnd p (s ++ r) = stripEnd p s := by
  induction s with
  | nil =>
    induction r with
    | nil => rfl
    | cons c r ih =>
      have hrest : stripEnd p r = [] := ih fun d hd => h d (List.mem_cons_of_mem c hd)
      show stripEnd p (c :: r) = []
      rw [stripEnd, hrest]
      exact if_pos (h c List.mem_cons_self)
  | cons c s ih => rw [List.cons_append, stripEnd, stripEnd, ih]

/-- An origin ends in a character that is no slash: the last of its host or of its port. -/
theorem Origin.text_last (o : Origin) : ∃ s c, o.text.toList = s ++ [c] ∧ c ≠ '/' := by
  obtain ⟨scheme, host, port, host_ne, host_plain, port_digits⟩ := o
  have hport : ∀ c ∈ (port.elim "" (":" ++ ·)).toList, c ≠ '/' := by
    cases port with
    | none => simp
    | some p =>
      intro c hc
      rw [Option.elim_some, String.toList_append] at hc
      rcases List.mem_append.mp hc with hcolon | hdigit
      · rw [List.mem_singleton.mp hcolon]
        decide
      · rintro rfl
        exact absurd (port_digits p rfl '/' hdigit) (by decide)
  rcases List.eq_nil_or_concat (host.toList ++ (port.elim "" (":" ++ ·)).toList) with hnil | ⟨s, c, hs⟩
  · exact absurd (String.toList_eq_nil_iff.mp (List.append_eq_nil_iff.mp hnil).1) host_ne
  · rw [List.concat_eq_append] at hs
    refine ⟨(scheme ++ "://").toList ++ s, c, ?_, ?_⟩
    · unfold text
      rw [String.toList_append, String.toList_append, List.append_assoc, hs, List.append_assoc]
    · have hc : c ∈ host.toList ++ (port.elim "" (":" ++ ·)).toList := by
        rw [hs]
        exact List.mem_append_right s List.mem_cons_self
      rcases List.mem_append.mp hc with hhost | htail
      · rintro rfl
        exact host_plain hhost
      · exact hport c htail

/-- **The slashes behind an origin are dropped, and nothing of the origin is.** -/
theorem Origin.trimEndWith_text (o : Origin) (k : Nat) :
    trimEndWith (· = '/') (o.text ++ slashes k) = o.text := by
  obtain ⟨s, c, hs, hc⟩ := o.text_last
  unfold trimEndWith slashes
  rw [String.toList_append, String.toList_ofList,
    stripEnd_append fun c hc => decide_eq_true (List.eq_of_mem_replicate hc), hs,
    stripEnd_concat _ s c (decide_eq_false hc), ← hs, String.ofList_toList]

/-! ## Addresses on an origin -/

/-- An address on an origin: the origin itself, or the origin with a path, a query or a fragment. -/
def IsOn (origin address : String) : Prop :=
  address = origin ∨ ∃ c ∈ ['/', '?', '#'], ∃ rest, address.toList = origin.toList ++ c :: rest

variable {origin address : String}

theorem startsWith_iff : startsWith address origin = true ↔ origin.toList <+: address.toList :=
  List.isPrefixOf_iff_prefix

/-- An address on an origin begins with it. -/
theorem startsWith_of_isOn (h : IsOn origin address) : startsWith address origin = true := by
  rw [startsWith_iff]
  rcases h with rfl | ⟨c, -, rest, hrest⟩
  · exact List.prefix_refl _
  · exact ⟨c :: rest, hrest.symm⟩

/-- An address that goes on behind the origin is on it exactly if it goes on in one of three ways. -/
theorem isOn_append_iff {c : Char} {rest : List Char} (h : address.toList = origin.toList ++ c :: rest) :
    IsOn origin address ↔ c ∈ ['/', '?', '#'] := by
  constructor
  · rintro (rfl | ⟨d, hd, rest', hrest⟩)
    · exact absurd (List.self_eq_append_right.mp h) (List.cons_ne_nil c rest)
    · have hcons := List.append_cancel_left (h.symm.trans hrest)
      rw [(List.cons.inj hcons).1]
      exact hd
  · exact fun hc => .inr ⟨c, hc, rest, h⟩

/-! ## Where a click goes -/

/-- Where a click ought to go if some of the windows are its own: to the first of these, or to a new window
at the root of the origin if there is none. -/
inductive Leads (Own : String → Prop) (origin : String) (windows : List String) : ClickTarget → Prop
  | focus {i : Nat} {w : String} (there : windows[i]? = some w) (own : Own w)
      (first : ∀ u ∈ windows.take i, ¬ Own u) : Leads Own origin windows (.focus i)
  | openWindow (none : ∀ w ∈ windows, ¬ Own w) : Leads Own origin windows (.openWindow (origin ++ "/"))

/-- A window stands among the first ones if its place does. -/
theorem mem_take_of_getElem? {windows : List String} {i n : Nat} {w : String}
    (h : windows[i]? = some w) (hi : i < n) : w ∈ windows.take n :=
  List.mem_of_getElem? ((List.getElem?_take_of_lt hi).trans h)

namespace Leads

variable {Own Other : String → Prop} {windows : List String} {s t : ClickTarget}

/-- There is one place for a click to go to. -/
theorem unique (hs : Leads Own origin windows s) (ht : Leads Own origin windows t) : s = t := by
  cases hs with
  | @focus i w there own first =>
    cases ht with
    | @focus j v there' own' first' =>
      rcases Nat.lt_trichotomy i j with hlt | rfl | hgt
      · exact absurd own (first' w (mem_take_of_getElem? there hlt))
      · rfl
      · exact absurd own' (first v (mem_take_of_getElem? there' hgt))
    | openWindow none => exact absurd own (none w (List.mem_of_getElem? there))
  | openWindow none =>
    cases ht with
    | @focus j v there' own' first' => exact absurd own' (none v (List.mem_of_getElem? there'))
    | openWindow none' => rfl

/-- **If more windows are taken for its own than are**, a click goes where it ought to exactly if each window
that is taken for one is one or stands behind one. -/
theorem narrow_iff (sub : ∀ w, Own w → Other w) (h : Leads Other origin windows t) :
    Leads Own origin windows t ↔
      ∀ i w, windows[i]? = some w → Other w → ∃ u ∈ windows.take (i + 1), Own u := by
  constructor
  · intro hown i w there hother
    cases hown with
    | @focus j v thereOwn own _ =>
      cases h with
      | focus _ _ first =>
        -- the window stands at the place of the click or behind it
        have hle : j ≤ i := Nat.le_of_not_lt fun hlt => first w (mem_take_of_getElem? there hlt) hother
        exact ⟨v, mem_take_of_getElem? thereOwn (Nat.lt_succ_of_le hle), own⟩
    | openWindow _ =>
      cases h with
      | openWindow none => exact absurd hother (none w (List.mem_of_getElem? there))
  · intro hall
    cases h with
    | @focus i w there other first =>
      obtain ⟨u, hu, own⟩ := hall i w there other
      rw [List.take_add_one, there, List.mem_append] at hu
      rcases hu with hbefore | hhere
      · exact absurd (sub u own) (first u hbefore)
      · obtain rfl := List.mem_singleton.mp hhere
        exact .focus there own fun u hu own => first u hu (sub u own)
    | openWindow none => exact .openWindow fun w hw own => none w hw (sub w own)

end Leads

/-- A click goes to the first window whose address begins with the origin. -/
theorem leads_resolveClick (o : Origin) (k : Nat) (windows : List String) :
    Leads (startsWith · o.text = true) o.text windows (resolveClick (o.text ++ slashes k) windows) := by
  unfold resolveClick
  rw [o.trimEndWith_text]
  dsimp only
  cases hfind : windows.findIdx? (startsWith · o.text) with
  | none => exact .openWindow fun w hw => Bool.eq_false_iff.mp (List.findIdx?_eq_none_iff.mp hfind w hw)
  | some i =>
    obtain ⟨hi, hstarts, hfirst⟩ := List.findIdx?_eq_some_iff_getElem.mp hfind
    refine .focus (List.getElem?_eq_getElem hi) hstarts fun u hu => ?_
    obtain ⟨j, hj, rfl⟩ := List.mem_take_iff_getElem.mp hu
    exact hfirst j (Nat.lt_of_lt_of_le hj (Nat.min_le_left _ _))

/-- **A click stays at home exactly if no lookalike stands in front.** The origin is a scheme, a host and
perhaps a port, with any number of slashes behind it. A click goes to the first window on the origin, and
to a new one at its root if there is none, if and only if each window whose address begins with the text
of the origin is on the origin or stands behind one that is. In any case it goes to the first window whose
address begins with that text. -/
theorem click_stays_home_iff (o : Origin) (k : Nat) (windows : List String) :
    ((∀ t, resolveClick (o.text ++ slashes k) windows = t ↔ Leads (IsOn o.text) o.text windows t) ↔
      ∀ i w, windows[i]? = some w → startsWith w o.text = true →
        ∃ u ∈ windows.take (i + 1), IsOn o.text u) ∧
    Leads (startsWith · o.text = true) o.text windows (resolveClick (o.text ++ slashes k) windows) := by
  have hleads := leads_resolveClick o k windows
  refine ⟨?_, hleads⟩
  rw [← hleads.narrow_iff fun _ => startsWith_of_isOn]
  constructor
  · exact fun h => (h _).mp rfl
  · exact fun h t => ⟨fun heq => heq ▸ h, h.unique⟩

/-- The origin of the client. -/
def beachcheck : Origin where
  scheme := "https"
  host := "beachcheck.app"
  port := none
  host_ne := by decide
  host_plain := by decide
  port_digits := nofun

/-- A window of another origin, one on the origin, and a lookalike behind it. -/
def crowd : List String :=
  ["https://other.example/", "https://beachcheck.app?from=push", "https://beachcheck.app.evil.example/"]

/-- The click goes to the window in the middle. -/
theorem click_stays_home_iff_crowded :
    (∀ i w, crowd[i]? = some w → startsWith w beachcheck.text = true →
      ∃ u ∈ crowd.take (i + 1), IsOn beachcheck.text u) ∧
    resolveClick (beachcheck.text ++ slashes 2) crowd = .focus 1 ∧
    Leads (IsOn beachcheck.text) beachcheck.text crowd (.focus 1) := by
  have hon : IsOn beachcheck.text "https://beachcheck.app?from=push" :=
    .inr ⟨'?', by decide, "from=push".toList, by decide⟩
  have hbehind : ∀ i w, crowd[i]? = some w → startsWith w beachcheck.text = true →
      ∃ u ∈ crowd.take (i + 1), IsOn beachcheck.text u := by
    intro i w hw hstarts
    cases i with
    | zero =>
      obtain rfl := Option.some.inj hw
      exact absurd hstarts (by decide)
    | succ i => exact ⟨_, mem_take_of_getElem? rfl (by omega : 1 < i + 2), hon⟩
  have hclick : resolveClick (beachcheck.text ++ slashes 2) crowd = .focus 1 := by decide
  exact ⟨hbehind, hclick, ((click_stays_home_iff beachcheck 2 crowd).1.mpr hbehind _).mp hclick⟩

/-- Windows with a longer host, with a port, and with another host behind what is a user's name. -/
def lookalikes : List String :=
  ["https://beachcheck.app.evil.example/", "https://beachcheck.app:8443/",
    "https://beachcheck.app@evil.example/"]

/-- **The first of them takes the click**, although none is on the origin and a window at the root of the
origin ought to be opened. -/
theorem lookalike_takes_click :
    resolveClick (beachcheck.text ++ slashes 0) lookalikes = .focus 0 ∧
    Leads (IsOn beachcheck.text) beachcheck.text lookalikes (.openWindow "https://beachcheck.app/") ∧
    ¬ Leads (IsOn beachcheck.text) beachcheck.text lookalikes (.focus 0) := by
  have haway : ∀ w ∈ lookalikes, ¬ IsOn beachcheck.text w := by
    unfold lookalikes
    simp only [List.forall_mem_cons]
    refine ⟨?_, ?_, ?_, nofun⟩
    · rw [isOn_append_iff (show _ = beachcheck.text.toList ++ '.' :: "evil.example/".toList by decide)]
      decide
    · rw [isOn_append_iff (show _ = beachcheck.text.toList ++ ':' :: "8443/".toList by decide)]
      decide
    · rw [isOn_append_iff (show _ = beachcheck.text.toList ++ '@' :: "evil.example/".toList by decide)]
      decide
  have hroot : Leads (IsOn beachcheck.text) beachcheck.text lookalikes
      (.openWindow "https://beachcheck.app/") := .openWindow haway
  exact ⟨by decide, hroot, fun hfocus => absurd (hfocus.unique hroot) nofun⟩

end Shoreline.Push
