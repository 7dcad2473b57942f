import Shoreline.Proofs.Client.Belated
import Shoreline.Proofs.Client.Fetch

/-!
# `Shoreline.Proofs.Client.OlderAnswer` — a toggle and the answers that come after it

A toggle puts an id on the side that the server names. The answer to a fetch adds what its list marks and
removes nothing. The list of a fetch that was asked for before the toggle may still mark the id, and the
client does not tell such a list from a newer one: the id comes back. So a toggle that made a beach a
favorite holds whatever lists come, and one that made it none holds exactly as long as no list marks it.

## Contents
- `Operation.loadsFavorites`, `Pending.loadsFavorites`; `Client.Marks`, `contains_begin`,
  `contains_resume_feed`, `contains_resume_toggle`, `contains_resume`.
- `Traffic.Spares`, `Traffic.Flags`; `contains_after`, `contains_run`.
- `toggle_holds_iff`, and a run in which the answer to an older fetch undoes a toggle.
-/

namespace Shoreline

open Text Http

/-- The operations that put other favorites in place, at once or with a request. -/
def Operation.loadsFavorites : Operation → Bool
  | start | signOut => true
  | _ => false

/-- What waits and puts other favorites in place when its reply comes, at once or with a request. -/
def Pending.loadsFavorites : Pending → Bool
  | startFavorites | logIn | logInFavorites _ | signOut => true
  | _ => false

namespace Client

/-- A failure leaves the favorites unless it stands for those of the device. -/
theorem favorites_fail (c : Client) {p : Pending} (h : p.loadsFavorites = false ∨ p = .logIn)
    (e : Failure) : (c.fail p e).1.favorites = c.favorites := by
  cases p with
  | startFavorites => rcases h with h | h <;> cases h
  | logInFavorites s => rcases h with h | h <;> cases h
  | signOut => rcases h with h | h <;> cases h
  | feed ticket => exact takeFeed_error c ticket e
  | toggle id => exact c.favorites_failToggle e
  | book b =>
    show (c.failBooking e).1.favorites = c.favorites
    unfold failBooking
    split <;> rfl
  | resend email now =>
    show (c.failResend email now e).1.favorites = c.favorites
    unfold failResend
    split
    · split <;> rfl
    · rfl
  | _ => rfl

/-- Asking leaves the favorites unless its failure would stand for those of the device. -/
theorem favorites_issue (c : Client) (r : Request) {p : Pending}
    (h : p.loadsFavorites = false ∨ p = .logIn) : (c.issue r p).1.favorites = c.favorites := by
  rcases c.issue_cases r p with ⟨sent, hasked⟩ | ⟨message, hfailed⟩
  · rw [hasked]
  · rw [hfailed]
    exact c.favorites_fail h _

theorem favorites_beginFetch (c : Client) (launched : Feed × Option (Ticket × Position)) :
    (c.beginFetch launched).1.favorites = c.favorites := by
  rcases c.beginFetch_cases launched with ⟨r, ticket, hasked⟩ | hskipped
  · rw [hasked]
    exact favorites_issue { c with feed := launched.1 } r (.inl rfl)
  · rw [hskipped]

theorem favorites_dropVisit (c : Client) (id : String) :
    (c.dropVisit id).1.favorites = c.favorites := by
  unfold dropVisit
  split <;> rfl

/-- What waits for an operation that loads no favorites loads none, unless it is a log-in. -/
theorem Awaits.loadsFavorites {c : Client} {op : Operation} {p : Pending} (h : Awaits c op p)
    (hop : op.loadsFavorites = false) : p.loadsFavorites = false ∨ p = .logIn := by
  cases h with
  | start _ => cases hop
  | logIn email password => exact Or.inr rfl
  | _ => exact Or.inl rfl

/-- **A beginning leaves an id on its side**, unless it loads favorites or flips the id on the device. -/
theorem contains_begin (c : Client) {op : Operation} {id : String}
    (hop : op.loadsFavorites = false) (hid : c.session = none → op ≠ .toggle id) :
    (c.begin op).1.favorites.contains id = c.favorites.contains id := by
  have hb := c.begins op
  revert hb
  generalize c.begin op = begun
  intro hb
  cases hb with
  | refused _ a => rfl
  | asked hwait r => rw [c.favorites_issue r (hwait.loadsFavorites hop)]
  | startOnDevice _ => cases hop
  | signOut _ r => cases hop
  | signOutAgain _ => cases hop
  | locate l => rw [c.favorites_beginFetch]
  | refetch => rw [c.favorites_beginFetch]
  | flip hout _ k =>
    have hk : id ≠ k := fun h => hid hout (h ▸ rfl)
    show (Favorites.flip c.favorites k).contains id = c.favorites.contains id
    rw [Favorites.contains_flip, if_neg hk]
  | noToggle => rfl
  | noBooking => rfl
  | dropVisit v =>
    show (c.dropVisit v.id).1.favorites.contains id = _
    rw [c.favorites_dropVisit]

/-- The answer to a fetch is taken up into the favorites of a user, and its list marks an id. -/
def Marks (c : Client) (id : String) (ticket : Ticket) (r : Reply) : Prop :=
  ticket ∉ c.feed.calledOff ∧ c.isLoggedIn = true ∧
    ∃ beaches, Api.beaches r = .ok beaches ∧ ∃ b ∈ beaches, b.isFavorite = true ∧ b.id = id

/-- **The answer to a fetch adds an id exactly if its list marks it**, and removes none. -/
theorem contains_resume_feed (c : Client) (id : String) (ticket : Ticket) (r : Reply) (now : Int) :
    (c.resume (.feed ticket) r now).1.favorites.contains id = true ↔
      c.favorites.contains id = true ∨ c.Marks id ticket r := by
  cases hlist : Api.beaches r with
  | error e =>
    have hread : Pending.read (.feed ticket) r = .error e := hlist
    have hsame : (c.fail (.feed ticket) e).1.favorites = c.favorites := c.favorites_fail (.inl rfl) e
    rw [resume_of_error hread]
    show (c.fail (.feed ticket) e).1.favorites.contains id = true ↔ _
    rw [hsame]
    constructor
    · exact Or.inl
    · rintro (hkept | ⟨_, _, beaches, hok, _⟩)
      · exact hkept
      · rw [hlist] at hok
        cases hok
  | ok beaches =>
    have hread : Pending.read (.feed ticket) r = .ok beaches := hlist
    rw [resume_of_ok hread]
    show (c.takeFeed ticket (.ok beaches)).1.favorites.contains id = true ↔ _
    by_cases hoff : ticket ∈ c.feed.calledOff
    · rw [takeFeed_calledOff hoff]
      constructor
      · exact Or.inl
      · rintro (hkept | ⟨hnot, _⟩)
        · exact hkept
        · exact absurd hoff hnot
    · rw [takeFeed_ok hoff]
      unfold mergeFlags
      by_cases hin : c.isLoggedIn = true
      · rw [if_pos hin]
        show (Favorites.merge c.favorites beaches).1.contains id = true ↔ _
        rw [Favorites.contains_merge]
        refine or_congr_right ⟨fun hmarked => ⟨hoff, hin, beaches, hlist, hmarked⟩, ?_⟩
        rintro ⟨_, _, beaches', hok, hmarked⟩
        rw [hlist] at hok
        rw [Except.ok.inj hok]
        exact hmarked
      · rw [if_neg hin]
        constructor
        · exact Or.inl
        · rintro (hkept | ⟨_, hlogged, _⟩)
          · exact hkept
          · exact absurd hlogged hin

/-- A completed toggle puts its id where the server says, and leaves the others. -/
theorem contains_resume_toggle (c : Client) (k : String) {r : Reply} {mark : Api.FavoriteMark}
    (h : Pending.read (.toggle k) r = .ok mark) (now : Int) (id : String) :
    (c.resume (.toggle k) r now).1.favorites.contains id =
      if id = k then mark.isFavorite else c.favorites.contains id := by
  rw [resume_of_ok h]
  exact Favorites.contains_put c.favorites k id mark.isFavorite

/-- **Every other reply leaves an id on its side**, unless it loads favorites. -/
theorem contains_resume (c : Client) {p : Pending} (hp : p.loadsFavorites = false)
    (hfeed : ∀ ticket, p ≠ .feed ticket) {r : Reply} {id : String}
    (hid : ∀ payload, p.read r = .ok payload → p ≠ .toggle id) (now : Int) :
    (c.resume p r now).1.favorites.contains id = c.favorites.contains id := by
  cases hread : p.read r with
  | error e =>
    rw [resume_of_error hread]
    show (c.fail p e).1.favorites.contains id = _
    rw [c.favorites_fail (.inl hp)]
  | ok payload =>
    cases p with
    | startFavorites => cases hp
    | logIn => cases hp
    | logInFavorites s => cases hp
    | signOut => cases hp
    | feed ticket => exact absurd rfl (hfeed ticket)
    | toggle k =>
      have hk : id ≠ k := fun h => hid payload hread (h ▸ rfl)
      rw [c.contains_resume_toggle k hread now id, if_neg hk]
    | refreshSession s =>
      rw [resume_of_ok hread]
      have hkept := c.succeed_refreshSession s payload now
      rw [hkept]
      unfold keepSession
      dsimp only
      split <;> rfl
    | cancelVisit k =>
      rw [resume_of_ok hread]
      show (c.dropVisit k).1.favorites.contains id = _
      rw [c.favorites_dropVisit]
    | _ =>
      rw [resume_of_ok hread]
      rfl

end Client

namespace Traffic

/-! ## Runs -/

/-- The event neither loads favorites nor toggles an id: it is no beginning and no reply of an operation
that puts other favorites in place, it does not flip the id on the device, and no toggle of it completes. -/
def Spares (id : String) (t : Traffic) : Event → Prop
  | .begin op => op.loadsFavorites = false ∧ (t.client.session = none → op ≠ .toggle id)
  | .reply i r now =>
    (∀ w, t.waiting[i]? = some w → w.pending.loadsFavorites = false) ∧
      ¬ t.Completes (.toggle id) (.reply i r now)

/-- The event is the answer to a fetch, and its list marks an id. -/
def Flags (id : String) (t : Traffic) : Event → Prop
  | .begin _ => False
  | .reply i r _ => ∃ w ticket, t.waiting[i]? = some w ∧ w.pending = .feed ticket ∧
      t.client.Marks id ticket r

/-- **Events that spare an id add it exactly if they mark it**, and never remove it. -/
theorem contains_after {id : String} {t : Traffic} {e : Event} (h : t.Spares id e) :
    (t.after e).client.favorites.contains id = true ↔
      t.client.favorites.contains id = true ∨ t.Flags id e := by
  cases e with
  | begin op =>
    obtain ⟨hop, hid⟩ := h
    rw [client_begin, t.client.contains_begin hop hid]
    exact (or_iff_left fun hflags => hflags).symm
  | reply i r now =>
    obtain ⟨hloads, htoggle⟩ := h
    cases hw : t.waiting[i]? with
    | none =>
      rw [after_reply_missing hw]
      refine (or_iff_left ?_).symm
      rintro ⟨w, ticket, hsome, _⟩
      rw [hw] at hsome
      cases hsome
    | some w =>
      rw [client_reply hw]
      by_cases hfeed : ∃ ticket, w.pending = .feed ticket
      · obtain ⟨ticket, hp⟩ := hfeed
        rw [hp, t.client.contains_resume_feed]
        refine or_congr_right ⟨fun hmarks => ⟨w, ticket, hw, hp, hmarks⟩, ?_⟩
        rintro ⟨w', ticket', hw', hp', hmarks⟩
        rw [hw] at hw'
        rw [← Option.some.inj hw', hp] at hp'
        rw [Pending.feed.inj hp']
        exact hmarks
      · have hother : ∀ ticket, w.pending ≠ .feed ticket := fun ticket hp => hfeed ⟨ticket, hp⟩
        have hid : ∀ payload, w.pending.read r = .ok payload → w.pending ≠ .toggle id := by
          intro payload hread hp
          obtain ⟨p, under⟩ := w
          subst hp
          exact htoggle ⟨_, payload, hw, rfl, hread⟩
        rw [t.client.contains_resume (hloads w hw) hother hid now]
        refine (or_iff_left ?_).symm
        rintro ⟨w', ticket, hw', hp, _⟩
        rw [hw] at hw'
        exact hother ticket (Option.some.inj hw' ▸ hp)

/-- **A run that spares an id has it exactly if it had it before or was told of it by a list.** -/
theorem contains_run {id : String} {t : Traffic} {es : List Event} (h : Along (Spares id) t es) :
    (t.run es).client.favorites.contains id = true ↔
      t.client.favorites.contains id = true ∨ ¬ Along (fun u e => ¬ u.Flags id e) t es := by
  induction es generalizing t with
  | nil => exact (or_iff_left (not_not_intro trivial)).symm
  | cons e es ih =>
    obtain ⟨here, later⟩ := h
    rw [run_cons, ih later, contains_after here, or_assoc]
    refine or_congr_right ?_
    show _ ↔ ¬ (¬ t.Flags id e ∧ Along (fun u e => ¬ u.Flags id e) (t.after e) es)
    rw [Classical.not_and_iff_not_or_not, Classical.not_not]

/-- **When a toggle holds.** In every run in which the toggle of an id completes and the events after it
neither load favorites nor toggle the id again: the id is on the side that the server named exactly if it
was made a favorite, or no answer to a fetch since has marked it. Whether such a fetch was asked for
before the toggle or after it makes no difference. -/
theorem toggle_holds_iff (settings : Settings) (store : Store) (early late : List Event) {id : String}
    {i : Nat} {r : Reply} {now : Int} {w : Waiting} {mark : Api.FavoriteMark}
    (hw : ((opened settings store).run early).waiting[i]? = some w) (hp : w.pending = .toggle id)
    (hmark : Reply.decoded Api.FavoriteMark.decoder r = .ok mark)
    (spared : Along (Spares id) (((opened settings store).run early).after (.reply i r now)) late) :
    let answered := ((opened settings store).run early).after (.reply i r now)
    (answered.run late).client.favorites.contains id = mark.isFavorite ↔
      mark.isFavorite = true ∨ Along (fun t e => ¬ t.Flags id e) answered late := by
  intro answered
  have hread : Pending.read (.toggle id) r = .ok mark := hmark
  have hput : answered.client.favorites.contains id = mark.isFavorite := by
    show (((opened settings store).run early).after (.reply i r now)).client.favorites.contains id = _
    rw [client_reply hw, hp, Client.contains_resume_toggle _ id hread, if_pos rfl]
  have hrun := contains_run spared
  rw [hput] at hrun
  cases hside : mark.isFavorite with
  | true =>
    rw [hside] at hrun
    exact iff_of_true (hrun.mpr (.inl rfl)) (.inl rfl)
  | false =>
    rw [hside] at hrun
    have hadded := hrun.trans (or_iff_right Bool.false_ne_true)
    refine Iff.trans ?_ (or_iff_right Bool.false_ne_true).symm
    rw [← Bool.not_eq_true, hadded, Classical.not_not]

/-! ## An older answer -/

/-- A place by the sea. -/
def samplePlace : Position := ⟨35.16, 129.16⟩

/-- A list of one beach, which it marks as a favorite. -/
def listing : Reply := granted (.arr [.obj [("id", .str "7"), ("isFavorite", .bool true)]])

/-- The server has made the beach no favorite any more. -/
def markedNone : Reply := granted (.obj [("message", .str ""), ("isFavorite", .bool false)])

/-- A user with one favorite, while the beaches around the device are fetched. -/
def fetching : Traffic :=
  ofUser.run [.begin .start, .reply 0 listing 1, .begin (.locate (.granted samplePlace))]

/-- The client of that user before the fetch. -/
def settledIn : Traffic := ofUser.run [.begin .start, .reply 0 listing 1]

/-- The request of the fetch can be sent. -/
theorem begin_fetching : ∃ sent, settledIn.client.begin (.locate (.granted samplePlace)) =
    ({ settledIn.client with feed := (settledIn.client.feed.locate (.granted samplePlace)).1 },
      .ask sent (.feed settledIn.client.feed.started)) := by
  have fresh : settledIn.client.feed.isAt samplePlace = false := by decide +kernel
  have haddress : Url.Address.parse? (settledIn.client.base ++ "/api/beaches") =
      some ⟨"http", none, some "localhost", .segments ["api".toList, "beaches".toList], none, none⟩ := by
    decide +kernel
  have htoken : (settledIn.client.token.getD "").toList.all isHeaderChar = true := by decide +kernel
  refine Client.begin_locate fresh (send?_nearby haddress ?_ ?_ ?_ htoken _ _)
  · decide +kernel
  · decide +kernel
  · decide +kernel

/-- So it is under way. -/
theorem fetching_eq : fetching =
    { client := { settledIn.client with feed := (settledIn.client.feed.locate (.granted samplePlace)).1 }
      waiting := settledIn.waiting ++
        [⟨.feed settledIn.client.feed.started, settledIn.client.session⟩] } := by
  obtain ⟨sent, hbegin⟩ := begin_fetching
  have hrun : fetching = settled settledIn.waiting
      (settledIn.client.begin (.locate (.granted samplePlace))) := rfl
  rw [hrun, hbegin]
  rfl

/-- **The answer to an older fetch undoes a toggle.** A user with one favorite makes it none while a fetch
waits, and the server agrees. Then the list of the fetch comes, which was made before, and the client has
the favorite again. The user has been logged in all the time. -/
theorem older_answer_undoes_toggle :
    (fetching.run [.begin (.toggle "7"), .reply 1 markedNone 2]).client.favorites.keys = [] ∧
    (fetching.run [.begin (.toggle "7"), .reply 1 markedNone 2]).client.token = some "a" ∧
    (fetching.run [.begin (.toggle "7"), .reply 1 markedNone 2,
      .reply 0 listing 3]).client.favorites.keys = ["7"] ∧
    (fetching.run [.begin (.toggle "7"), .reply 1 markedNone 2,
      .reply 0 listing 3]).client.token = some "a" := by
  rw [fetching_eq]
  decide +kernel

/-- The id that a toggle waits for, and whether what waits loads favorites. -/
def waitsFor (w : Waiting) : Option String × Bool :=
  match w.pending with
  | .toggle id => (some id, false)
  | p => (none, p.loadsFavorites)

theorem pending_of_waitsFor {w : Waiting} {id : String} (h : (waitsFor w).1 = some id) :
    w.pending = .toggle id := by
  unfold waitsFor at h
  split at h
  · next k hk => rw [hk, Option.some.inj h]
  · cases h

/-- What neither toggles nor loads favorites spares every id. -/
theorem spares_of_waitsFor {t : Traffic} {i : Nat} (h : t.waiting[i]?.map waitsFor = some (none, false))
    (id : String) (r : Reply) (now : Int) : t.Spares id (.reply i r now) := by
  obtain ⟨w, hw, hnone⟩ := Option.map_eq_some_iff.mp h
  obtain ⟨p, under⟩ := w
  constructor
  · intro w' hw'
    rw [hw] at hw'
    rw [← Option.some.inj hw']
    unfold waitsFor at hnone
    split at hnone
    · cases hnone
    · exact congrArg Prod.snd hnone
  · rintro ⟨w', payload, hw', hp, _⟩
    rw [hw] at hw'
    have hpending : p = .toggle id := (congrArg Waiting.pending (Option.some.inj hw')).trans hp
    rw [hpending] at hnone
    cases hnone

/-- In that run the toggle completes, the answer to the fetch spares the id, and it marks it. -/
theorem toggle_holds_iff_fetching :
    ∃ w mark, (fetching.run [.begin (.toggle "7")]).waiting[1]? = some w ∧ w.pending = .toggle "7" ∧
      Reply.decoded Api.FavoriteMark.decoder markedNone = .ok mark ∧ mark.isFavorite = false ∧
      Along (Spares "7") (fetching.run [.begin (.toggle "7"), .reply 1 markedNone 2])
        [.reply 0 listing 3] ∧
      ¬ Along (fun t e => ¬ t.Flags "7" e)
        (fetching.run [.begin (.toggle "7"), .reply 1 markedNone 2]) [.reply 0 listing 3] := by
  have htoggle : (fetching.run [.begin (.toggle "7")]).waiting[1]?.map waitsFor =
      some (some "7", false) := by
    rw [fetching_eq]
    decide +kernel
  have hfetch : (fetching.run [.begin (.toggle "7"), .reply 1 markedNone 2]).waiting[0]?.map waitsFor =
      some (none, false) := by
    rw [fetching_eq]
    decide +kernel
  have hback : (fetching.run [.begin (.toggle "7"), .reply 1 markedNone 2,
      .reply 0 listing 3]).client.favorites.contains "7" = true := by
    rw [fetching_eq]
    decide +kernel
  have hnone : (Reply.decoded Api.FavoriteMark.decoder markedNone).toOption.map (·.isFavorite) =
      some false := by decide +kernel
  obtain ⟨w, hw, hwaits⟩ := Option.map_eq_some_iff.mp htoggle
  have hp : w.pending = .toggle "7" := pending_of_waitsFor (congrArg Prod.fst hwaits)
  have spared : Along (Spares "7") (fetching.run [.begin (.toggle "7"), .reply 1 markedNone 2])
      [.reply 0 listing 3] := ⟨spares_of_waitsFor hfetch "7" listing 3, trivial⟩
  cases hmark : Reply.decoded Api.FavoriteMark.decoder markedNone with
  | error e =>
    rw [hmark] at hnone
    cases hnone
  | ok mark =>
    rw [hmark] at hnone
    have hside : mark.isFavorite = false := Option.some.inj hnone
    refine ⟨w, mark, hw, hp, rfl, hside, spared, fun hunmarked => ?_⟩
    -- the run of the theorem is the one that led here, with the client opened on its store
    have hrun : (opened sampleSettings sampleStore).run [.begin .start, .reply 0 listing 1,
        .begin (.locate (.granted samplePlace)), .begin (.toggle "7")] =
        fetching.run [.begin (.toggle "7")] := by
      rw [opened_sampleStore]
      rfl
    have spared' : Along (Spares "7") (((opened sampleSettings sampleStore).run [.begin .start,
        .reply 0 listing 1, .begin (.locate (.granted samplePlace)), .begin (.toggle "7")]).after
        (.reply 1 markedNone 2)) [.reply 0 listing 3] := by
      rw [hrun]
      exact spared
    have hholds := toggle_holds_iff sampleSettings sampleStore _ _ (hrun ▸ hw) hp hmark spared'
    rw [hrun, hside] at hholds
    have hgone := hholds.mpr (.inr hunmarked)
    exact Bool.false_ne_true (hgone.symm.trans hback)

end Traffic

end Shoreline
