import Shoreline.Proofs.Beach.Search
import Shoreline.Proofs.Client.Deeds
import Shoreline.Proofs.Client.OlderAnswer

/-!
# `Shoreline.Proofs.Client.Search` — the beach that a search looks at

A search finds a beach by its text, then asks the feed to look at the beach with its id. The second look-up
starts again at the front of the list. Several beaches may have one id, since a missing id is read as the
empty text; then the beach that is looked at is the first of them, which need not be the one that was found.

## Contents
- `Feed.Foremost` with `foremost_iff`, `foremost_unique`, `exists_foremost`, `foremost_of_nodup`;
  `select_of_foremost`.
- `Client.search_cases`; `Client.ShowsFind`, `showsFind_iff`.
- `Client.search_shows_find_iff`, with a reachable client that looks at another beach than it finds.
-/

namespace Shoreline

open Text Http

namespace Feed

/-! ## The first beach with an id -/

/-- The beach is in the feed, and none in front of it has its id. -/
def Foremost (f : Feed) (b : Beach) : Prop :=
  ∃ front back, f.beaches = front ++ b :: back ∧ ∀ a ∈ front, a.id ≠ b.id

variable {f : Feed} {a b : Beach}

/-- It is the beach that is found by its id. -/
theorem foremost_iff : f.Foremost b ↔ f.beaches.find? (·.id == b.id) = some b := by
  rw [List.find?_eq_some_iff_append]
  simp [Foremost]

/-- No two beaches with one id are both the first. -/
theorem foremost_unique (ha : f.Foremost a) (hb : f.Foremost b) (same : a.id = b.id) : a = b := by
  rw [foremost_iff] at ha hb
  rw [same, hb] at ha
  exact (Option.some.inj ha).symm

/-- For every beach of the feed there is a first one with its id. -/
theorem exists_foremost (h : b ∈ f.beaches) : ∃ a, f.Foremost a ∧ a.id = b.id := by
  have hsome : (f.beaches.find? (·.id == b.id)).isSome = true :=
    List.find?_isSome.mpr ⟨b, h, beq_self_eq_true _⟩
  obtain ⟨a, ha⟩ := Option.isSome_iff_exists.mp hsome
  have hid : a.id = b.id := by simpa using List.find?_some ha
  refine ⟨a, foremost_iff.mpr ?_, hid⟩
  rw [hid]
  exact ha

/-- Where no id is repeated, each beach is the first with its id. -/
theorem foremost_of_nodup (distinct : (f.beaches.map Beach.id).Nodup) (h : b ∈ f.beaches) :
    f.Foremost b := by
  obtain ⟨front, back, hsplit⟩ := List.append_of_mem h
  refine ⟨front, back, hsplit, fun a ha hid => ?_⟩
  rw [hsplit, List.map_append, List.map_cons] at distinct
  exact (List.nodup_append.mp distinct).2.2 _ (List.mem_map_of_mem ha) _ List.mem_cons_self hid

/-- Looking at the first beach with an id changes nothing else. -/
theorem select_of_foremost (h : f.Foremost b) :
    f.select b.id = ({ f with current := some b }, true) := by
  unfold select
  rw [foremost_iff.mp h]

end Feed

namespace Client

/-! ## Searches -/

/-- A search finds nothing, or it looks at the first beach with the id of the one that it finds. -/
theorem search_cases (c : Client) (query : String) :
    ((c.search query).2 = none ∧ (c.search query).1 = c) ∨
    ∃ b a, b ∈ c.feed.beaches ∧ c.feed.Foremost a ∧ a.id = b.id ∧ (c.search query).2 = some b ∧
      (c.search query).1 = { c with feed := { c.feed with current := some a } } := by
  unfold search
  cases hfound : firstMatch c.feed.beaches query with
  | none => exact Or.inl ⟨rfl, rfl⟩
  | some b =>
    have hmem : b ∈ c.feed.beaches := mem_of_firstMatch hfound
    obtain ⟨a, ha, hid⟩ := Feed.exists_foremost hmem
    refine Or.inr ⟨b, a, hmem, ha, hid, rfl, ?_⟩
    dsimp only
    rw [← hid, Feed.select_of_foremost ha]

/-- A search that finds a beach looks at that beach and leaves the rest of the feed; one that finds none
leaves all of it. -/
def ShowsFind (c : Client) (query : String) : Prop :=
  (∀ b, (c.search query).2 = some b →
    (c.search query).1.feed = { c.feed with current := some b }) ∧
  ((c.search query).2 = none → (c.search query).1.feed = c.feed)

/-- A search looks at the beach that it finds if that is the first one with its id, and only then. -/
theorem showsFind_iff (c : Client) (query : String) :
    c.ShowsFind query ↔ ∀ b, (c.search query).2 = some b → c.feed.Foremost b := by
  unfold ShowsFind
  rcases c.search_cases query with ⟨hnone, hleft⟩ | ⟨b, a, _, ha, hid, hfound, hlooks⟩
  · rw [hnone, hleft]
    refine iff_of_true ⟨?_, fun _ => rfl⟩ ?_
    · intro b hb
      cases hb
    · intro b hb
      cases hb
  · rw [hfound, hlooks]
    constructor
    · rintro ⟨hshows, _⟩ b' hb'
      have hcurrent : some a = some b' := congrArg Feed.current (hshows b' hb')
      rw [← Option.some.inj hcurrent]
      exact ha
    · intro hfirst
      refine ⟨fun b' hb' => ?_, fun hb' => absurd hb' (Option.some_ne_none b)⟩
      have hsame : a = b' :=
        Feed.foremost_unique ha (hfirst b' hb') (hid.trans (congrArg Beach.id (Option.some.inj hb')))
      rw [hsame]

/-- **When a search looks at the beach that it finds.** In every client it does exactly if no beach in front
of the one that it finds has the same id; so it always does where no id is repeated in the feed. In any case
it looks at the first beach that has the id of the one that it finds, and leaves the rest of the client. -/
theorem search_shows_find_iff (c : Client) (query : String) :
    (c.ShowsFind query ↔ ∀ b, (c.search query).2 = some b → c.feed.Foremost b) ∧
    ((c.feed.beaches.map Beach.id).Nodup → c.ShowsFind query) ∧
    ((c.search query).2 = none → (c.search query).1 = c) ∧
    ∀ b, (c.search query).2 = some b → ∃ a, c.feed.Foremost a ∧ a.id = b.id ∧
      (c.search query).1 = { c with feed := { c.feed with current := some a } } := by
  refine ⟨c.showsFind_iff query, ?_, ?_⟩
  · intro distinct
    rw [showsFind_iff]
    intro b hb
    rcases c.search_cases query with ⟨hnone, _⟩ | ⟨b', _, hmem, _, _, hfound, _⟩
    · rw [hnone] at hb
      cases hb
    · rw [hfound] at hb
      exact Feed.foremost_of_nodup distinct (Option.some.inj hb ▸ hmem)
  · rcases c.search_cases query with ⟨hnone, hleft⟩ | ⟨b, a, _, ha, hid, hfound, hlooks⟩
    · rw [hnone, hleft]
      refine ⟨fun _ => rfl, ?_⟩
      intro b hb
      cases hb
    · rw [hfound, hlooks]
      refine ⟨fun hb' => absurd hb' (Option.some_ne_none b), ?_⟩
      intro b' hb'
      refine ⟨a, ha, ?_, rfl⟩
      rw [hid, Option.some.inj hb']

end Client

namespace Traffic

/-! ## Two beaches of a list -/

/-- A client that has fetched the list of a reply. -/
def havingFetched (r : Reply) : Traffic := fetching.run [.reply 0 r 3]

theorem reachable_havingFetched (r : Reply) : (havingFetched r).client.Reachable := by
  have hopened : fetching = (opened sampleSettings sampleStore).run
      [.begin .start, .reply 0 listing 1, .begin (.locate (.granted samplePlace))] := by
    rw [opened_sampleStore]
    unfold fetching
    rfl
  unfold havingFetched
  rw [hopened, ← run_append]
  exact Client.reachable_run sampleSettings _ _

/-- A list of two beaches with ids of their own. -/
def numbered : Reply :=
  granted (.arr [.obj [("id", .str "1"), ("name", .str "A")], .obj [("id", .str "2"), ("name", .str "B")]])

/-- The same list without ids; the first beach is a favorite. -/
def unnumbered : Reply :=
  granted (.arr [.obj [("name", .str "A"), ("isFavorite", .bool true)], .obj [("name", .str "B")]])

/-- **A search looks at another beach than it finds.** The feed holds two beaches whose ids are missing. The
search for the second finds it, and looks at the first. -/
theorem search_shows_another :
    (havingFetched unnumbered).client.Reachable ∧
    ((havingFetched unnumbered).client.search "B").2.map (fun b => (b.id, b.name, b.isFavorite)) =
      some ("", "B", false) ∧
    ((havingFetched unnumbered).client.search "B").1.feed.current.map
      (fun b => (b.id, b.name, b.isFavorite)) = some ("", "A", true) ∧
    ¬ (havingFetched unnumbered).client.ShowsFind "B" := by
  have hrun : ((havingFetched unnumbered).client.search "B").2.map (fun b => (b.id, b.name, b.isFavorite)) =
        some ("", "B", false) ∧
      ((havingFetched unnumbered).client.search "B").1.feed.current.map
        (fun b => (b.id, b.name, b.isFavorite)) = some ("", "A", true) := by
    unfold havingFetched
    rw [fetching_eq]
    decide +kernel
  obtain ⟨hfound, hcurrent⟩ := hrun
  refine ⟨reachable_havingFetched unnumbered, hfound, hcurrent, ?_⟩
  rintro ⟨hshows, _⟩
  -- if the search showed its find, the two beaches would have one name
  obtain ⟨b, hb, hfields⟩ := Option.map_eq_some_iff.mp hfound
  rw [hshows b hb, Option.map_some, hfields] at hcurrent
  exact absurd hcurrent (by decide)

/-- With ids of their own the search for the second looks at it. -/
theorem search_shows_find_iff_numbered :
    (havingFetched numbered).client.Reachable ∧
    ((havingFetched numbered).client.feed.beaches.map Beach.id).Nodup ∧
    ((havingFetched numbered).client.search "b").2.map Beach.name = some "B" ∧
    (havingFetched numbered).client.ShowsFind "b" ∧
    ∃ b, ((havingFetched numbered).client.search "b").2 = some b ∧
      (havingFetched numbered).client.feed.Foremost b := by
  have hrun : ((havingFetched numbered).client.feed.beaches.map Beach.id).Nodup ∧
      ((havingFetched numbered).client.search "b").2.map Beach.name = some "B" := by
    unfold havingFetched
    rw [fetching_eq]
    decide +kernel
  obtain ⟨hdistinct, hfound⟩ := hrun
  obtain ⟨hexact, hshows, _, _⟩ := Client.search_shows_find_iff (havingFetched numbered).client "b"
  obtain ⟨b, hb, _⟩ := Option.map_eq_some_iff.mp hfound
  exact ⟨reachable_havingFetched numbered, hdistinct, hfound, hshows hdistinct, b, hb,
    hexact.mp (hshows hdistinct) b hb⟩

end Traffic

end Shoreline
