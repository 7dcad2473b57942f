import Shoreline.Proofs.Client.Traffic
import Shoreline.Proofs.Text.KeySet

/-!
# `Shoreline.Proofs.Client.Belated` — replies about a user who has gone

The favorites are one set, whoever is logged in. A request for favorites, a toggle and a fetch are sent
with the token of one user; by the time the reply comes that user may have signed out, or another may
have logged in. The reply is taken up all the same: a list replaces the set, a toggle adds or removes an
id, a fetch adds the ids that it marks for whoever is logged in by then. So such a reply leaves the set
alone only if it tells nothing new. This module says for each kind of reply what that means.

## Contents
- `Favorites.contains_merge`, `merge_eq_iff`, `put_eq_iff`.
- `Pending.touchesFavorites`, `Client.listed`, `Client.Knows`; `favorites_resume_iff`.
- `Traffic.Belated`, `Traffic.Familiar`, `favorites_belated_iff`.
- `Traffic.Attended`, `Traffic.Undisturbed`, `not_belated_along`.
- `belated_replies_leave_favorites_iff`, and a run in which a toggle outlives a sign-out.
-/

namespace Shoreline.Favorites

open Text

theorem contains_foldl_addCounted (l : List String) (state : KeySet × Nat) (k : String) :
    (l.foldl addCounted state).1.contains k = (l.contains k || state.1.contains k) := by
  -- the set so far changes with each member, so the statement is about every state
  induction l generalizing state with
  | nil => simp
  | cons a l ih =>
    rw [List.foldl_cons, ih, List.contains_cons]
    have hadd : (addCounted state a).1.contains k = (k == a || state.1.contains k) := by
      unfold addCounted
      split
      · next h =>
        by_cases hk : k = a
        · rw [hk, h]
          simp
        · simp [hk]
      · exact KeySet.contains_add state.1 a k
    rw [hadd]
    cases l.contains k <;> cases k == a <;> simp

/-- A list adds the ids that it marks, and nothing else. -/
theorem contains_merge (ids : KeySet) (beaches : List Beach) (k : String) :
    (merge ids beaches).1.contains k = true ↔
    ids.contains k = true ∨ ∃ b ∈ beaches, b.isFavorite = true ∧ b.id = k := by
  unfold merge
  rw [contains_foldl_addCounted]
  simp [or_comm, and_assoc]

/-- A list adds nothing exactly if what it marks are favorites already. -/
theorem merge_eq_iff (ids : KeySet) (beaches : List Beach) :
    (merge ids beaches).1 = ids ↔
    ∀ b ∈ beaches, b.isFavorite = true → ids.contains b.id = true := by
  constructor
  · intro h b hb hmarked
    rw [← h]
    exact (contains_merge ids beaches b.id).mpr (Or.inr ⟨b, hb, hmarked, rfl⟩)
  · intro h
    apply KeySet.ext_contains
    intro k
    rw [Bool.eq_iff_iff, contains_merge]
    constructor
    · rintro (hk | ⟨b, hb, hmarked, rfl⟩)
      · exact hk
      · exact h b hb hmarked
    · exact Or.inl

/-- Putting an id on a side changes nothing exactly if it is there already. -/
theorem put_eq_iff (ids : KeySet) (id : String) (isFavorite : Bool) :
    put ids id isFavorite = ids ↔ ids.contains id = isFavorite := by
  constructor
  · intro h
    rw [← h, contains_put, if_pos rfl]
  · intro h
    apply KeySet.ext_contains
    intro k
    rw [contains_put]
    by_cases hk : k = id
    · rw [if_pos hk, hk, h]
    · rw [if_neg hk]

end Shoreline.Favorites

namespace Shoreline

open Text Http

/-- The operations whose reply is taken up into the favorites. -/
def Pending.touchesFavorites : Pending → Bool
  | startFavorites | logInFavorites _ | toggle _ | feed _ => true
  | _ => false

namespace Client

/-! ## What a reply tells -/

/-- The ids that a reply to a request for favorites stands for: those that it lists, or those of the
device if it lists none. -/
def listed (c : Client) (r : Reply) : List String :=
  match Api.beaches r with
  | .ok beaches => beaches.map (·.id)
  | .error _ => c.store.loadFavorites

/-- A reply tells nothing about the favorites that the client does not have already. -/
def Knows (c : Client) (r : Reply) : Pending → Prop
  | .startFavorites | .logInFavorites _ => ∀ id, id ∈ c.listed r ↔ c.favorites.contains id = true
  | .toggle id =>
    ∀ mark, Reply.decoded Api.FavoriteMark.decoder r = .ok mark →
      c.favorites.contains id = mark.isFavorite
  | .feed ticket =>
    ∀ beaches, Api.beaches r = .ok beaches → ticket ∉ c.feed.calledOff → c.isLoggedIn = true →
      ∀ b ∈ beaches, b.isFavorite = true → c.favorites.contains b.id = true
  | _ => True

/-- A request for favorites ends with those that its reply stands for, at the start and after a
log-in. -/
theorem favorites_resume_list (c : Client) (r : Reply) (now : Int) :
    (c.resume .startFavorites r now).1.favorites = KeySet.ofKeys (c.listed r) ∧
    ∀ s, (c.resume (.logInFavorites s) r now).1.favorites = KeySet.ofKeys (c.listed r) := by
  unfold listed
  cases hlist : Api.beaches r with
  | ok beaches =>
    have hstart : Pending.read .startFavorites r = .ok beaches := hlist
    have hlogIn : ∀ s, Pending.read (.logInFavorites s) r = .ok beaches := fun _ => hlist
    constructor
    · rw [resume_of_ok hstart]
      rfl
    · intro s
      rw [resume_of_ok (hlogIn s)]
      rfl
  | error e =>
    have hstart : Pending.read .startFavorites r = .error e := hlist
    have hlogIn : ∀ s, Pending.read (.logInFavorites s) r = .error e := fun _ => hlist
    constructor
    · rw [resume_of_error hstart]
      rfl
    · intro s
      rw [resume_of_error (hlogIn s)]
      rfl

theorem favorites_failToggle (c : Client) (e : Failure) :
    (c.failToggle e).1.favorites = c.favorites := by
  unfold failToggle
  split <;> rfl

/-- A toggle leaves the favorites exactly if it fails or finds the id where it should be. -/
theorem favorites_resume_toggle_iff (c : Client) (id : String) (r : Reply) (now : Int) :
    (c.resume (.toggle id) r now).1.favorites = c.favorites ↔ c.Knows r (.toggle id) := by
  show _ ↔ ∀ mark, Reply.decoded Api.FavoriteMark.decoder r = .ok mark →
    c.favorites.contains id = mark.isFavorite
  cases hmark : Reply.decoded Api.FavoriteMark.decoder r with
  | error e =>
    have hread : Pending.read (.toggle id) r = .error e := hmark
    rw [resume_of_error hread]
    refine iff_of_true (c.favorites_failToggle e) ?_
    intro mark hok
    cases hok
  | ok mark =>
    have hread : Pending.read (.toggle id) r = .ok mark := hmark
    rw [resume_of_ok hread]
    -- the answer says on which side the id should be
    show Favorites.put c.favorites id mark.isFavorite = c.favorites ↔ _
    rw [Favorites.put_eq_iff]
    constructor
    · intro h mark' hok
      obtain rfl := Except.ok.inj hok
      exact h
    · intro h
      exact h mark rfl

/-- The marks of a list add nothing exactly if nobody is logged in or they are favorites already. -/
theorem favorites_mergeFlags_iff (c : Client) (beaches : List Beach) :
    (c.mergeFlags beaches).1.favorites = c.favorites ↔
    (c.isLoggedIn = true → ∀ b ∈ beaches, b.isFavorite = true →
      c.favorites.contains b.id = true) := by
  unfold mergeFlags
  by_cases h : c.isLoggedIn = true
  · rw [if_pos h]
    show (Favorites.merge c.favorites beaches).1 = c.favorites ↔ _
    rw [Favorites.merge_eq_iff]
    exact ⟨fun hb _ => hb, fun hb => hb h⟩
  · rw [if_neg h]
    exact iff_of_true rfl fun hin => absurd hin h

/-- A fetch leaves the favorites exactly if it brings no list that marks a new one. -/
theorem favorites_resume_feed_iff (c : Client) (ticket : Ticket) (r : Reply) (now : Int) :
    (c.resume (.feed ticket) r now).1.favorites = c.favorites ↔ c.Knows r (.feed ticket) := by
  show _ ↔ ∀ beaches, Api.beaches r = .ok beaches → ticket ∉ c.feed.calledOff →
    c.isLoggedIn = true → ∀ b ∈ beaches, b.isFavorite = true → c.favorites.contains b.id = true
  cases hlist : Api.beaches r with
  | error e =>
    have hread : Pending.read (.feed ticket) r = .error e := hlist
    rw [resume_of_error hread]
    refine iff_of_true (c.takeFeed_error ticket e) ?_
    intro beaches hok
    cases hok
  | ok beaches =>
    have hread : Pending.read (.feed ticket) r = .ok beaches := hlist
    rw [resume_of_ok hread]
    show (c.takeFeed ticket (.ok beaches)).1.favorites = c.favorites ↔ _
    by_cases hoff : ticket ∈ c.feed.calledOff
    · exact iff_of_true (takeFeed_calledOff hoff _) fun _ _ hnot => absurd hoff hnot
    · rw [takeFeed_ok hoff, favorites_mergeFlags_iff]
      constructor
      · intro h beaches' hok _
        obtain rfl := Except.ok.inj hok
        exact h
      · intro h
        exact h beaches rfl hoff

/-- **A reply leaves the favorites exactly if it tells nothing new about them.** -/
theorem favorites_resume_iff (c : Client) {p : Pending} (h : p.touchesFavorites = true) (r : Reply)
    (now : Int) : (c.resume p r now).1.favorites = c.favorites ↔ c.Knows r p := by
  cases p with
  | startFavorites =>
    rw [(c.favorites_resume_list r now).1]
    exact KeySet.ofKeys_eq_iff
  | logInFavorites s =>
    rw [(c.favorites_resume_list r now).2 s]
    exact KeySet.ofKeys_eq_iff
  | toggle id => exact c.favorites_resume_toggle_iff id r now
  | feed ticket => exact c.favorites_resume_feed_iff ticket r now
  | _ => cases h

end Client

namespace Traffic

/-! ## Belated replies -/

/-- The event is a reply about the favorites of a user who is not logged in any more. -/
def Belated (t : Traffic) : Event → Prop
  | .begin _ => False
  | .reply i _ _ =>
    ∃ w s, t.waiting[i]? = some w ∧ w.pending.touchesFavorites = true ∧ w.under = some s ∧
      ∀ s', t.client.session = some s' → s'.user.id ≠ s.user.id

/-- A reply tells nothing new about the favorites. -/
def Familiar (t : Traffic) : Event → Prop
  | .begin _ => True
  | .reply i r _ => ∀ w, t.waiting[i]? = some w → t.client.Knows r w.pending

/-- A belated reply leaves the favorites exactly if it tells nothing new about them. -/
theorem favorites_belated_iff {t : Traffic} {e : Event} (h : t.Belated e) :
    (t.after e).client.favorites = t.client.favorites ↔ t.Familiar e := by
  cases e with
  | begin op => exact h.elim
  | reply i r now =>
    obtain ⟨w, s, hw, hp, _⟩ := h
    rw [client_reply hw, t.client.favorites_resume_iff hp]
    constructor
    · intro hknown w' hw'
      rw [hw] at hw'
      obtain rfl := Option.some.inj hw'
      exact hknown
    · intro hfamiliar
      exact hfamiliar w hw

/-- While nobody is logged in, a fetch leaves the favorites whatever it brings. -/
theorem familiar_feed {c : Client} (h : c.session = none) (ticket : Ticket) (r : Reply) :
    c.Knows r (.feed ticket) := by
  intro beaches _ _ hin
  unfold Client.isLoggedIn at hin
  rw [h] at hin
  cases hin

/-- Every request for favorites that waits is about the user who is logged in. -/
def Attended (t : Traffic) : Prop :=
  ∀ w ∈ t.waiting, w.pending.touchesFavorites = true → ∀ s, w.under = some s →
    t.client.session.map (·.user.id) = some s.user.id

/-- The user who is logged in stays the same, or no request about favorites waits for one. -/
def Undisturbed (t : Traffic) (e : Event) : Prop :=
  (t.after e).client.session.map (·.user.id) = t.client.session.map (·.user.id) ∨
  ∀ w ∈ t.waiting, w.pending.touchesFavorites = true → w.under = none

theorem attended_opened (settings : Settings) (store : Store) : (opened settings store).Attended := by
  intro w hw
  exact absurd hw List.not_mem_nil

/-- Requests stay about the user who is logged in while that user stays. -/
theorem attended_after {t : Traffic} (h : t.Attended) {e : Event} (calm : t.Undisturbed e) :
    (t.after e).Attended := by
  intro w hw hp s hs
  -- what waited before is about the user who stayed; what is new is about the user of now
  rcases mem_waiting_after hw with hold | hnew
  · rcases calm with hsame | hidle
    · rw [hsame]
      exact h w hold hp s hs
    · have hnone := hidle w hold hp
      rw [hs] at hnone
      cases hnone
  · rw [← hnew, hs]
    rfl

/-- A reply about the user who is logged in is not belated. -/
theorem not_belated_of_attended {t : Traffic} (h : t.Attended) (e : Event) : ¬ t.Belated e := by
  cases e with
  | begin op => exact id
  | reply i r now =>
    rintro ⟨w, s, hw, hp, hs, hgone⟩
    have huser := h w (List.mem_of_getElem? hw) hp s hs
    obtain ⟨s', hs', hsame⟩ := Option.map_eq_some_iff.mp huser
    exact hgone s' hs' hsame

/-- No reply is belated if no request about favorites waits when the user changes. -/
theorem not_belated_along {t : Traffic} (h : t.Attended) {es : List Event}
    (calm : Along Undisturbed t es) : Along (fun u e => ¬ u.Belated e) t es := by
  induction es generalizing t with
  | nil => trivial
  | cons e es ih =>
    obtain ⟨here, later⟩ := calm
    exact ⟨not_belated_of_attended h e, ih (attended_after h here) later⟩

/-- **When favorites stay with their user.** In every run, belated replies leave the favorites exactly
if all of them tell nothing new; fetches never do while nobody is logged in. No reply is belated if no
request about favorites waits when the user changes. -/
theorem belated_replies_leave_favorites_iff (settings : Settings) (store : Store)
    (es : List Event) :
    (Along (fun t e => t.Belated e → (t.after e).client.favorites = t.client.favorites)
        (opened settings store) es ↔
      Along (fun t e => t.Belated e → t.Familiar e) (opened settings store) es) ∧
    (((opened settings store).run es).client.session = none →
      ∀ ticket r, ((opened settings store).run es).client.Knows r (.feed ticket)) ∧
    (Along Undisturbed (opened settings store) es →
      Along (fun t e => ¬ t.Belated e) (opened settings store) es) := by
  refine ⟨?_, ?_, ?_⟩
  · refine along_congr (fun t e => ?_) _ es
    exact forall_congr' fun h => favorites_belated_iff h
  · intro hnone ticket r
    exact familiar_feed hnone ticket r
  · intro calm
    exact not_belated_along (attended_opened settings store) calm

/-- A user who signed out while a toggle was waiting. -/
def toggling : Traffic :=
  ofUser.run [.begin (.toggle "7"), .begin .signOut, .reply 1 (granted .null) 1]

/-- The server has made the beach a favorite. -/
def markedFavorite : Reply := granted (.obj [("message", .str ""), ("isFavorite", .bool true)])

/-- **A toggle outlives a sign-out.** A user makes a beach a favorite, signs out while the server is
asked, and the sign-out is confirmed: nobody is logged in, and there are no favorites. Then the server
answers, and the beach is a favorite of nobody, though the device keeps none. -/
theorem toggle_outlives_sign_out :
    toggling.client.session = none ∧ toggling.client.favorites.keys = [] ∧
    (toggling.after (.reply 0 markedFavorite 2)).client.session = none ∧
    (toggling.after (.reply 0 markedFavorite 2)).client.favorites.keys = ["7"] ∧
    (toggling.after (.reply 0 markedFavorite 2)).client.store.loadFavorites = [] := by
  decide +kernel

/-- The events of that run, with the answer to the toggle at their end. -/
def toggleEvents : List Event :=
  [.begin (.toggle "7"), .begin .signOut, .reply 1 (granted .null) 1, .reply 0 markedFavorite 2]

/-- The answer to the toggle is belated in that run. -/
theorem belated_toggling : toggling.Belated (.reply 0 markedFavorite 2) := by
  have hwaits : toggling.waiting[0]?.map (fun w => (w.pending.touchesFavorites, w.under)) =
      some (true, some sampleSession) := by
    decide +kernel
  have hout : toggling.client.session = none := by decide +kernel
  obtain ⟨w, hw, hpair⟩ := Option.map_eq_some_iff.mp hwaits
  obtain ⟨hp, hunder⟩ := Prod.mk.inj hpair
  refine ⟨w, sampleSession, hw, hp, hunder, ?_⟩
  intro s hs
  rw [hout] at hs
  cases hs

/-- In that run a belated reply tells something new. Had the answer come before the sign-out, none
would have been belated. -/
theorem belated_replies_leave_favorites_iff_toggling :
    ¬ Along (fun t e => t.Belated e → t.Familiar e) (opened sampleSettings sampleStore)
      toggleEvents ∧
    Along Undisturbed (opened sampleSettings sampleStore)
      [.begin (.toggle "7"), .reply 0 markedFavorite 1] ∧
    Along (fun t e => ¬ t.Belated e) (opened sampleSettings sampleStore)
      [.begin (.toggle "7"), .reply 0 markedFavorite 1] := by
  have calm : Along Undisturbed (opened sampleSettings sampleStore)
      [.begin (.toggle "7"), .reply 0 markedFavorite 1] := by
    rw [opened_sampleStore]
    refine ⟨Or.inl ?_, Or.inl ?_, trivial⟩
    · decide +kernel
    · decide +kernel
  refine ⟨?_, calm, ?_⟩
  · intro hfamiliar
    obtain ⟨hexact, _, _⟩ :=
      belated_replies_leave_favorites_iff sampleSettings sampleStore toggleEvents
    have hkept := hexact.mpr hfamiliar
    rw [opened_sampleStore] at hkept
    obtain ⟨_, _, _, hlast, _⟩ := hkept
    have hsame := congrArg SortedMap.keys (hlast belated_toggling)
    revert hsame
    decide +kernel
  · obtain ⟨_, _, hattended⟩ :=
      belated_replies_leave_favorites_iff sampleSettings sampleStore
        [.begin (.toggle "7"), .reply 0 markedFavorite 1]
    exact hattended calm

end Traffic

end Shoreline
