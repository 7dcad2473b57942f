import Shoreline.Proofs.Client.Conduct
import Shoreline.Proofs.Client.OlderAnswer
import Shoreline.Proofs.Http.Reply

/-!
# `Shoreline.Proofs.Client.Union` — the marks of lists are united

A list that is fetched marks some of its beaches as favorites, any number of times and in any order. The ids
are added one by one, and an id is counted when the set does not have it yet. One step keeps the difference
between the size of the set and the count (`addCounted_size`), so the count of a list is what the set has
grown by. Which set comes out depends only on which ids are marked: lists that are taken up one after the
other do what all of them do as one list, and their order does not matter.

## Contents
- `Favorites.addCounted_size`, `foldl_addCounted_size`, `merge_size`, `merge_again`.
- `Client.GrownBy` with `trans`, `unique`; `isLoggedIn_mergeFlags`, `grownBy_mergeFlags`,
  `mergeFlags_of_loggedOut`.
- `Client.mergeAll` with `grownBy_mergeAll`, `mergeAll_perm`.
- `Client.LoadedFrom`: a fetch has loaded a list; `loadedFrom_takeFeed`, `loadedFrom_resume`,
  `loadedFrom_conduct`, `resume_feed_ok`.
- `Client.marks_are_united`, with lists that repeat a mark.
-/

namespace Shoreline

open Text Http

namespace Favorites

/-! ## Counting -/

/-- **A step adds to the set what it adds to the count.** -/
theorem addCounted_size (state : KeySet × Nat) (id : String) :
    (addCounted state id).1.size + state.2 = state.1.size + (addCounted state id).2 := by
  unfold addCounted
  cases h : state.1.contains id with
  | true => simp
  | false =>
    have hsize := KeySet.size_add h
    simp only [Bool.false_eq_true, if_false]
    omega

theorem foldl_addCounted_size (l : List String) (state : KeySet × Nat) :
    (l.foldl addCounted state).1.size + state.2 = state.1.size + (l.foldl addCounted state).2 := by
  induction l generalizing state with
  | nil => rfl
  | cons id l ih =>
    have hstep := addCounted_size state id
    have hrest := ih (addCounted state id)
    rw [List.foldl_cons]
    omega

/-- The count of a list is what the set has grown by. -/
theorem merge_size (ids : KeySet) (beaches : List Beach) :
    (merge ids beaches).1.size = ids.size + (merge ids beaches).2 :=
  foldl_addCounted_size _ (ids, 0)

/-- **A list adds nothing the second time.** -/
theorem merge_again (ids : KeySet) (beaches : List Beach) :
    merge (merge ids beaches).1 beaches = ((merge ids beaches).1, 0) := by
  have hsame : (merge (merge ids beaches).1 beaches).1 = (merge ids beaches).1 := by
    rw [merge_eq_iff]
    intro b hb hmarked
    exact (contains_merge ids beaches b.id).mpr (.inr ⟨b, hb, hmarked, rfl⟩)
  have hcount : (merge (merge ids beaches).1 beaches).2 = 0 := by
    have hsize := merge_size (merge ids beaches).1 beaches
    rw [hsame] at hsize
    omega
  exact Prod.ext hsame hcount

end Favorites

namespace Client

/-! ## One list -/

/-- One client is what another is once the marks of a list were added to its favorites. -/
structure GrownBy (c : Client) (beaches : List Beach) (d : Client) : Prop where
  members : ∀ k, d.favorites.contains k = true ↔
    c.favorites.contains k = true ∨ ∃ b ∈ beaches, b.isFavorite = true ∧ b.id = k
  others : d = { c with favorites := d.favorites }

variable {c d e : Client} {beaches later : List Beach}

theorem GrownBy.trans (hd : GrownBy c beaches d) (he : GrownBy d later e) :
    GrownBy c (beaches ++ later) e where
  members := by
    intro k
    rw [he.members, hd.members, or_assoc]
    apply or_congr_right
    simp [or_and_right, exists_or]
  others := by
    rw [he.others, hd.others]

/-- **Lists of the same beaches leave the same client.** -/
theorem GrownBy.unique (hd : GrownBy c beaches d) (he : GrownBy c later e)
    (same : ∀ b, b ∈ beaches ↔ b ∈ later) : d = e := by
  have hfavorites : d.favorites = e.favorites := by
    apply KeySet.ext_contains
    intro k
    rw [Bool.eq_iff_iff, hd.members, he.members]
    simp [same]
  rw [hd.others, he.others, hfavorites]

/-- Whoever is logged in stays so while a list is taken up. -/
theorem isLoggedIn_mergeFlags (c : Client) (beaches : List Beach) :
    (c.mergeFlags beaches).1.isLoggedIn = c.isLoggedIn := by
  unfold mergeFlags
  split <;> rfl

/-- A list that is taken up for a user adds its marks. -/
theorem grownBy_mergeFlags (h : c.isLoggedIn = true) (beaches : List Beach) :
    GrownBy c beaches (c.mergeFlags beaches).1 where
  members := by
    intro k
    simpa [mergeFlags, h] using Favorites.contains_merge c.favorites beaches k
  others := by simp [mergeFlags, h]

/-- While nobody is logged in, no list is taken up. -/
theorem mergeFlags_of_loggedOut (h : c.isLoggedIn = false) (beaches : List Beach) :
    c.mergeFlags beaches = (c, 0) := by
  simp [mergeFlags, h]

/-! ## Many lists -/

/-- Take up some lists, one after the other. -/
def mergeAll (c : Client) (lists : List (List Beach)) : Client :=
  lists.foldl (fun c beaches => (c.mergeFlags beaches).1) c

/-- **Lists add together what all of them as one list would add.** -/
theorem grownBy_mergeAll (h : c.isLoggedIn = true) (lists : List (List Beach)) :
    GrownBy c lists.flatten (c.mergeAll lists) := by
  induction lists generalizing c with
  | nil => exact ⟨by simp [mergeAll], rfl⟩
  | cons beaches lists ih =>
    have hin : (c.mergeFlags beaches).1.isLoggedIn = true := by rw [isLoggedIn_mergeFlags, h]
    exact (grownBy_mergeFlags h beaches).trans (ih hin)

theorem mergeAll_of_loggedOut (h : c.isLoggedIn = false) (lists : List (List Beach)) :
    c.mergeAll lists = c := by
  induction lists with
  | nil => rfl
  | cons beaches lists ih => simpa [mergeAll, mergeFlags_of_loggedOut h] using ih

/-- The order of the lists does not matter. -/
theorem mergeAll_perm (c : Client) {lists others : List (List Beach)} (perm : lists.Perm others) :
    c.mergeAll lists = c.mergeAll others := by
  cases h : c.isLoggedIn with
  | true =>
    apply (grownBy_mergeAll h lists).unique (grownBy_mergeAll h others)
    intro b
    exact perm.flatten.mem_iff
  | false => rw [mergeAll_of_loggedOut h, mergeAll_of_loggedOut h]

/-! ## A list that is fetched -/

/-- A list that comes for a fetch under way is put in the feed and taken up. -/
theorem takeFeed_of_list {ticket : Ticket} (h : ticket ∉ c.feed.calledOff) (beaches : List Beach) :
    ∃ f, f.beaches = beaches ∧ c.takeFeed ticket (.ok beaches) =
      ((mergeFlags { c with feed := f } beaches).1, .feed (.loaded beaches.length)) := by
  refine ⟨(c.feed.deliver ticket (.ok beaches)).1, ?_, ?_⟩
  · simp [Feed.deliver, h]
  · simp [takeFeed, Feed.deliver, h]

/-- A fetch has loaded a list of some length for a user: it is in the feed, and the favorites are those of
before together with those that it marks. -/
structure LoadedFrom (c : Client) (n : Nat) (d : Client) : Prop where
  count : d.feed.beaches.length = n
  members : ∀ k, d.favorites.contains k = true ↔
    c.favorites.contains k = true ∨ ∃ b ∈ d.feed.beaches, b.isFavorite = true ∧ b.id = k

/-- **A fetch that has loaded a list has taken up its marks.** -/
theorem loadedFrom_takeFeed {ticket : Ticket} {result : Except Failure (List Beach)} {n : Nat}
    (h : c.takeFeed ticket result = (d, .feed (.loaded n))) (hin : d.isLoggedIn = true) :
    LoadedFrom c n d := by
  have houtcome : (c.feed.deliver ticket result).2 = .loaded n := by
    have hanswer := c.answer_takeFeed ticket result
    rw [h] at hanswer
    exact (Answer.feed.inj hanswer).symm
  obtain ⟨hon, hlength, hok⟩ := Feed.deliver_loaded houtcome
  obtain ⟨f, hbeaches, htaken⟩ := takeFeed_of_list hon (c.feed.deliver ticket result).1.beaches
  rw [← hok, h] at htaken
  have hd : d = (mergeFlags { c with feed := f } f.beaches).1 := by
    rw [hbeaches]
    exact congrArg Prod.fst htaken
  rw [hd, isLoggedIn_mergeFlags] at hin
  have hgrown := grownBy_mergeFlags hin f.beaches
  rw [← hd] at hgrown
  have hfeed : d.feed = f := by rw [hgrown.others]
  constructor
  · rw [hfeed, hbeaches, hlength]
  · rw [hfeed]
    exact hgrown.members

/-- Every reply to a fetch ends it. -/
theorem resume_feed (c : Client) (ticket : Ticket) (r : Reply) (now : Int) :
    c.resume (.feed ticket) r now = (c.takeFeed ticket (Api.beaches r)).step := by
  cases hlist : Api.beaches r with
  | ok beaches => exact resume_of_ok (p := .feed ticket) hlist now
  | error e => exact resume_of_error (p := .feed ticket) hlist now

theorem loadedFrom_resume {ticket : Ticket} {r : Reply} {now : Int} {n : Nat}
    (h : c.resume (.feed ticket) r now = (d, .done (.feed (.loaded n)))) (hin : d.isLoggedIn = true) :
    LoadedFrom c n d := by
  rw [resume_feed] at h
  have hclient : (c.takeFeed ticket (Api.beaches r)).1 = d := congrArg Prod.fst h
  have hanswer : (c.takeFeed ticket (Api.beaches r)).2 = .feed (.loaded n) :=
    Step.done.inj (congrArg Prod.snd h)
  exact loadedFrom_takeFeed (Prod.ext hclient hanswer) hin

/-- A list that comes for a fetch under way is loaded. -/
theorem resume_feed_ok {ticket : Ticket} (h : ticket ∉ c.feed.calledOff) {r : Reply}
    (hlist : Api.beaches r = .ok beaches) (now : Int) :
    ∃ d, c.resume (.feed ticket) r now = (d, .done (.feed (.loaded beaches.length))) ∧
      d.isLoggedIn = c.isLoggedIn := by
  obtain ⟨f, -, htaken⟩ := takeFeed_of_list h beaches
  rw [resume_feed, hlist, htaken]
  exact ⟨(mergeFlags { c with feed := f } beaches).1, rfl, isLoggedIn_mergeFlags _ _⟩

/-- **A fetch that runs alone and has loaded a list has taken up its marks.** -/
theorem loadedFrom_conduct {op : Operation} {launched : Feed × Option (Ticket × Position)}
    (hop : c.begin op = c.beginFetch launched) {w : World} {n : Nat} {log : Log}
    (run : c.conduct w op = ((d, .feed (.loaded n)), log)) (hin : d.isLoggedIn = true) :
    LoadedFrom c n d := by
  rcases c.beginFetch_cases launched with ⟨r, ticket, hissued⟩ | hskipped
  · rcases issue_cases { c with feed := launched.1 } r (.feed ticket) with
      ⟨sent, hasked⟩ | ⟨message, hfailed⟩
    · have hbegin := (hop.trans hissued).trans hasked
      obtain ⟨e, a, hreply⟩ : ∃ e a, resume { c with feed := launched.1 } (.feed ticket)
          (w.reply [] sent) (w.clock [(sent, w.reply [] sent)]) = (e, .done a) :=
        ⟨_, _, resume_feed _ ticket _ _⟩
      rw [conduct_answered hbegin w hreply] at run
      obtain ⟨hended, -⟩ := Prod.mk.inj run
      obtain ⟨rfl, rfl⟩ := Prod.mk.inj hended
      obtain ⟨hcount, hmembers⟩ := loadedFrom_resume hreply hin
      exact ⟨hcount, hmembers⟩
    · -- a request that could not be sent has brought no list
      have hbegin : c.begin op = ((takeFeed { c with feed := launched.1 } ticket
          (.error (.transport message))).1, .done _) := (hop.trans hissued).trans hfailed
      rw [conduct_done hbegin] at run
      obtain ⟨hended, -⟩ := Prod.mk.inj run
      have houtcome := (answer_takeFeed { c with feed := launched.1 } ticket
        (.error (.transport message))).symm.trans (congrArg Prod.snd hended)
      obtain ⟨-, -, hlist⟩ := Feed.deliver_loaded (Answer.feed.inj houtcome)
      cases hlist
  · rw [conduct_done (hop.trans hskipped)] at run
    cases run

/-- **The marks of lists are united.** A list that is taken up for a user who is logged in leaves the set of
before with the ids that it marks, and nothing else is changed; the count is what the set has grown by; the
same list adds nothing again; and of several lists the order does not matter. While nobody is logged in, no
list is taken up. So after a fetch that has loaded a list for a user, every beach in the feed that is marked
is in the set, and no id was dropped: neither by its beginning nor by its reply, whatever came in between. -/
theorem marks_are_united (c : Client) :
    (c.isLoggedIn = true → ∀ beaches,
      GrownBy c beaches (c.mergeFlags beaches).1 ∧
      (c.mergeFlags beaches).1.favorites.size = c.favorites.size + (c.mergeFlags beaches).2 ∧
      (c.mergeFlags beaches).1.mergeFlags beaches = ((c.mergeFlags beaches).1, 0)) ∧
    (∀ lists others, lists.Perm others → c.mergeAll lists = c.mergeAll others) ∧
    (c.isLoggedIn = false → ∀ beaches, c.mergeFlags beaches = (c, 0)) ∧
    (∀ op, (op = .refetch ∨ ∃ l, op = .locate l) →
      (c.begin op).1.favorites = c.favorites ∧
      ∀ w d n log, c.conduct w op = ((d, .feed (.loaded n)), log) → d.isLoggedIn = true →
        LoadedFrom c n d) ∧
    ∀ ticket r now d n, c.resume (.feed ticket) r now = (d, .done (.feed (.loaded n))) →
      d.isLoggedIn = true → LoadedFrom c n d := by
  refine ⟨?_, fun _ _ => c.mergeAll_perm, mergeFlags_of_loggedOut, ?_, ?_⟩
  · intro hin beaches
    have hmerged : c.mergeFlags beaches = ({ c with favorites := (Favorites.merge c.favorites beaches).1 },
        (Favorites.merge c.favorites beaches).2) := by
      simp [mergeFlags, hin]
    refine ⟨grownBy_mergeFlags hin beaches, ?_, ?_⟩
    · rw [hmerged]
      exact Favorites.merge_size c.favorites beaches
    · have hstill : (c.mergeFlags beaches).1.isLoggedIn = true := by rw [isLoggedIn_mergeFlags, hin]
      rw [mergeFlags, if_pos hstill, hmerged]
      simp [Favorites.merge_again]
  · rintro op (rfl | ⟨l, rfl⟩)
    · exact ⟨c.favorites_beginFetch _, fun w d n log run => loadedFrom_conduct rfl run⟩
    · exact ⟨c.favorites_beginFetch _, fun w d n log run => loadedFrom_conduct rfl run⟩
  · intro ticket r now d n
    exact loadedFrom_resume

end Client

namespace Traffic

/-! ## Repeated marks -/

/-- A list that marks one beach twice and another one once. -/
def marking : Reply :=
  granted (.arr [.obj [("id", .str "8"), ("isFavorite", .bool true)], .obj [("id", .str "9")],
    .obj [("id", .str "7"), ("isFavorite", .bool true)], .obj [("id", .str "8"), ("isFavorite", .bool true)]])

/-- A server that always answers with that list. -/
def markingServer : World := ⟨fun _ _ => marking, fun _ => 2⟩

/-- A user has one favorite. The list marks it again and another beach twice: one id is new, and taking the
list up again adds none. A fetch that runs alone loads the list. -/
theorem marks_are_united_marking :
    settledIn.client.isLoggedIn = true ∧ settledIn.client.favorites.keys = ["7"] ∧
    ∃ beaches, Api.beaches marking = .ok beaches ∧
      (settledIn.client.mergeFlags beaches).2 = 1 ∧
      (settledIn.client.mergeFlags beaches).1.favorites.size = 2 ∧
      (settledIn.client.mergeFlags beaches).1.mergeFlags beaches =
        ((settledIn.client.mergeFlags beaches).1, 0) ∧
      settledIn.client.mergeAll [beaches, []] = settledIn.client.mergeAll [[], beaches] ∧
      ∃ d log, settledIn.client.conduct markingServer (.locate (.granted samplePlace)) =
          ((d, .feed (.loaded 4)), log) ∧ d.isLoggedIn = true ∧ settledIn.client.LoadedFrom 4 d := by
  have hin : settledIn.client.isLoggedIn = true := by decide +kernel
  have hkeys : settledIn.client.favorites.keys = ["7"] := by decide +kernel
  have hcounted : (Api.beaches marking).toOption.map
      (fun beaches => (beaches.length, (settledIn.client.mergeFlags beaches).2)) = some (4, 1) := by
    decide +kernel
  obtain ⟨beaches, hlist, hnumbers⟩ := exists_of_toOption_map hcounted
  obtain ⟨hlength, hnew⟩ := Prod.mk.inj hnumbers
  obtain ⟨hone, hmany, -, hfetch, -⟩ := Client.marks_are_united settledIn.client
  obtain ⟨-, hsize, hagain⟩ := hone hin beaches
  obtain ⟨-, hloads⟩ := hfetch (.locate (.granted samplePlace)) (.inr ⟨_, rfl⟩)
  -- the fetch asks, and its list is loaded
  obtain ⟨sent, hbegin⟩ := begin_fetching
  have hlive : settledIn.client.feed.started ∉
      (settledIn.client.feed.locate (.granted samplePlace)).1.calledOff := by decide +kernel
  obtain ⟨d, hreply, hsame⟩ := Client.resume_feed_ok (c := { settledIn.client with
    feed := (settledIn.client.feed.locate (.granted samplePlace)).1 }) hlive hlist 2
  rw [hlength] at hreply
  have hstill : d.isLoggedIn = true := hsame.trans hin
  have run := Client.conduct_answered hbegin markingServer hreply
  have hfew : settledIn.client.favorites.size = 1 := by decide +kernel
  refine ⟨hin, hkeys, beaches, hlist, hnew, ?_, hagain, hmany _ _ (.swap _ _ _), d, _, run, hstill,
    hloads _ _ _ _ run hstill⟩
  rw [hsize, hfew, hnew]

end Traffic

end Shoreline
