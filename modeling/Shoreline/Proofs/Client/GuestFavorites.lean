import Shoreline.Proofs.Client.Traffic
import Shoreline.Proofs.Store.ReadBack
import Shoreline.Proofs.Text.KeySet

/-!
# `Shoreline.Proofs.Client.GuestFavorites` — the favorites of those who are not logged in

While nobody is logged in the favorites are those that the device keeps, and only they are written:
what a user's favorites are is never put on the device. This is shown for operations that run one after
the other. Between two requests the favorites may differ from the device only while a sign-out waits,
and operations about a user's favorites wait only while a user is logged in; `Orderly` says so, and
each event keeps it.

## Contents
- `Client.Agrees`, and what keeps it; `Pending.needsSession`.
- `Traffic.Sequential`, `Traffic.Orderly`; `orderly_start`, `Orderly.begin`, `Orderly.reply`, `Orderly.run`.
- `Traffic.KeepsFavorites`, `Traffic.FlipsAsGuest`: what is written.
- `guest_favorites_agree`.
-/

namespace Shoreline

open Text Http

/-- An operation that waits only while a user is logged in. -/
def Pending.needsSession : Pending → Bool
  | startFavorites | logInFavorites _ | refreshSession _ | toggle _ => true
  | _ => false

theorem Pending.writes_ne_favorites (p : Pending) : p.writes ≠ some Key.favorites := by
  cases p with
  | logIn => exact mt Option.some.inj (by decide)
  | refreshSession s => exact mt Option.some.inj (by decide)
  | book b => exact mt Option.some.inj (by decide)
  | cancelVisit id => exact mt Option.some.inj (by decide)
  | resend email now => exact mt Option.some.inj (Key.resend_ne (by decide) email)
  | _ => exact nofun

theorem Pending.writesRefused_ne_favorites (p : Pending) : p.writesRefused ≠ some Key.favorites := by
  cases p with
  | resend email now => exact mt Option.some.inj (Key.resend_ne (by decide) email)
  | _ => exact nofun

namespace Client

/-! ## Agreement with the device -/

/-- The favorites are those that the device keeps. -/
def Agrees (c : Client) : Prop := c.favorites = KeySet.ofKeys c.store.loadFavorites

/-- The device keeps the same favorites after what writes under other keys. -/
theorem Frame.loadFavorites {key : Option String} {c d : Client} (h : Frame key c d)
    (hkey : key ≠ some Key.favorites) : d.store.loadFavorites = c.store.loadFavorites :=
  Store.loadFavorites_congr (h.store.get? _ hkey)

/-- What leaves the favorites and writes under other keys keeps the agreement. -/
theorem Agrees.of_frame {key : Option String} {c d : Client} (h : c.Agrees) (hframe : Frame key c d)
    (hkey : key ≠ some Key.favorites) (hsame : d.favorites = c.favorites) : d.Agrees := by
  unfold Agrees
  rw [hsame, hframe.loadFavorites hkey]
  exact h

theorem agrees_loadDeviceFavorites (c : Client) : c.loadDeviceFavorites.Agrees := rfl

theorem agrees_afterSignOut (c : Client) : c.afterSignOut.Agrees := rfl

/-- A failure keeps the agreement. -/
theorem Agrees.fail {c : Client} (h : c.Agrees) (p : Pending) (e : Failure) :
    (c.fail p e).1.Agrees := by
  have hframe := c.frame_fail p e
  have hkey := p.writesRefused_ne_favorites
  rcases c.fail_favorites p e with hsame | hdevice
  · exact h.of_frame hframe hkey hsame
  · unfold Agrees
    rw [hdevice, hframe.loadFavorites hkey]

/-- **A flip on the device keeps what the favorites are now.** -/
theorem loadFavorites_flipFavorite {c : Client} (h : c.store.fault = none) (id : String) :
    (c.flipFavorite id).1.store.loadFavorites = (c.flipFavorite id).1.favorites.keys :=
  Store.loadFavorites_saveFavorites h _

theorem agrees_flipFavorite {c : Client} (h : c.store.fault = none) (id : String) :
    (c.flipFavorite id).1.Agrees := by
  unfold Agrees
  rw [loadFavorites_flipFavorite h, KeySet.ofKeys_keys]

/-- While nobody is logged in, a fetch leaves the favorites. -/
theorem takeFeed_signedOut {c : Client} (h : c.session = none) (ticket : Ticket)
    (result : Except Failure (List Beach)) :
    (c.takeFeed ticket result).1.favorites = c.favorites := by
  cases result with
  | error e => exact c.takeFeed_error ticket e
  | ok beaches =>
    by_cases hoff : ticket ∈ c.feed.calledOff
    · exact takeFeed_calledOff hoff _
    · have hout : ¬ c.isLoggedIn = true := by
        unfold isLoggedIn
        rw [h]
        exact Bool.false_ne_true
      rw [takeFeed_ok hoff]
      unfold mergeFlags
      rw [if_neg hout]

/-- Success keeps the agreement while nobody is logged in, unless it needs somebody who is. -/
theorem Agrees.succeed {c : Client} (h : c.Agrees) (hout : c.session = none) (now : Int)
    {p : Pending} (hp : p.needsSession = false) (hgrants : p.grants = false)
    (payload : p.Payload) : (c.succeed now p payload).1.Agrees := by
  have hframe := c.frame_succeed now hgrants payload
  have hkey := p.writes_ne_favorites
  cases p with
  | startFavorites => cases hp
  | logIn => cases hgrants
  | logInFavorites s => cases hp
  | refreshSession s => cases hp
  | toggle id => cases hp
  | signOut => exact c.agrees_afterSignOut
  | feed ticket => exact h.of_frame hframe hkey (takeFeed_signedOut hout ticket _)
  | cancelVisit id =>
    refine h.of_frame hframe hkey ?_
    show (c.dropVisit id).1.favorites = c.favorites
    unfold dropVisit
    split <;> rfl
  | _ => exact h.of_frame hframe hkey rfl

end Client

namespace Traffic

/-! ## Operations one after the other -/

/-- An operation begins only when none waits. -/
def Sequential (t : Traffic) : Event → Prop
  | .begin _ => t.waiting = []
  | .reply _ _ _ => True

/-- What holds between two events, once the favorites were loaded for the first time. -/
structure Orderly (t : Traffic) : Prop where
  sound : t.client.store.fault = none
  alone : t.waiting.length ≤ 1
  /-- An operation that needs a user waits while one is logged in. -/
  needs : ∀ w ∈ t.waiting, w.pending.needsSession = true → t.client.session ≠ none
  /-- The favorites agree with the device while nobody is logged in, unless a sign-out waits. -/
  agrees : t.client.session = none → (∀ w ∈ t.waiting, w.pending ≠ .signOut) → t.client.Agrees

/-- An operation that has ended leaves nothing waiting. -/
theorem Orderly.done {c : Client} (sound : c.store.fault = none)
    (agrees : c.session = none → c.Agrees) (a : Answer) : Orderly (settled [] (c, .done a)) where
  sound := sound
  alone := Nat.zero_le 1
  needs _ hw := absurd hw List.not_mem_nil
  agrees hout _ := agrees hout

/-- An operation that has failed has ended. -/
theorem Orderly.failed {c : Client} (sound : c.store.fault = none) {p : Pending}
    (agrees : c.session = none → p ≠ .signOut → c.Agrees) (e : Failure) :
    Orderly (settled [] (c.fail p e).step) := by
  have hframe := c.frame_fail p e
  refine Orderly.done (hframe.store.fault.trans sound) (fun hout => ?_) _
  by_cases hp : p = .signOut
  · subst hp
    exact c.agrees_afterSignOut
  · rw [hframe.session] at hout
    exact (agrees hout hp).fail p e

/-- An operation that asks waits alone, or its request cannot be sent and it has ended. -/
theorem Orderly.issue {c : Client} (sound : c.store.fault = none) {p : Pending}
    (needs : p.needsSession = true → c.session ≠ none)
    (agrees : c.session = none → p ≠ .signOut → c.Agrees) (r : Request) :
    Orderly (settled [] (c.issue r p)) := by
  rcases c.issue_cases r p with ⟨sent, h⟩ | ⟨message, h⟩
  · rw [h]
    refine ⟨sound, Nat.le_refl 1, ?_, ?_⟩
    · intro w hw
      rw [List.mem_singleton.mp hw]
      exact needs
    · intro hout hnot
      exact agrees hout (hnot _ (List.mem_singleton.mpr rfl))
  · rw [h]
    exact Orderly.failed sound agrees _

/-- A report about the location is no different, whatever it does to the feed. -/
theorem Orderly.fetch {c : Client} (sound : c.store.fault = none)
    (agrees : c.session = none → c.Agrees) (launched : Feed × Option (Ticket × Position)) :
    Orderly (settled [] (c.beginFetch launched)) := by
  rcases c.beginFetch_cases launched with ⟨r, ticket, h⟩ | h
  · rw [h]
    have hneeds : (Pending.feed ticket).needsSession ≠ true := Bool.false_ne_true
    exact Orderly.issue (c := { c with feed := launched.1 }) sound (fun hp => absurd hp hneeds)
      (fun hout _ => agrees hout) r
  · rw [h]
    exact Orderly.done (c := { c with feed := launched.1 }) sound agrees _

/-- An operation that begins keeps what holds between events. -/
theorem Orderly.begin {t : Traffic} (h : Orderly t) (idle : t.waiting = []) (op : Operation) :
    Orderly (t.after (.begin op)) := by
  -- nothing waits, so only the client and what the operation asks for count
  obtain ⟨c, waiting⟩ := t
  obtain rfl : waiting = [] := idle
  obtain ⟨sound, _, _, agrees⟩ := h
  have hagrees : c.session = none → c.Agrees := fun hout => agrees hout fun w hw => absurd hw List.not_mem_nil
  have hdrop : c.dropSession.store.fault = none :=
    (Store.changedAt_clearSession c.store).fault.trans sound
  show Orderly (settled [] (c.begin op))
  have hb := c.begins op
  revert hb
  generalize c.begin op = begun
  intro hb
  cases hb with
  | refused _ a => exact Orderly.done sound hagrees a
  | asked hwait r =>
    refine Orderly.issue sound ?_ (fun hout _ => hagrees hout) r
    intro hp
    -- what needs a user has asked with the token of one
    cases hwait with
    | start hs => rw [hs]; exact Option.some_ne_none _
    | refreshSession hs => rw [hs]; exact Option.some_ne_none _
    | toggle hs id => rw [hs]; exact Option.some_ne_none _
    | _ => cases hp
  | startOnDevice _ =>
    exact Orderly.done (c := c.loadDeviceFavorites) sound
      (fun _ => c.agrees_loadDeviceFavorites) _
  | signOut _ r =>
    refine Orderly.issue hdrop ?_ (fun _ hnot => absurd rfl hnot) r
    intro hp
    cases hp
  | signOutAgain _ =>
    exact Orderly.done (c := c.dropSession.afterSignOut) hdrop
      (fun _ => c.dropSession.agrees_afterSignOut) _
  | locate l => exact Orderly.fetch sound hagrees _
  | refetch => exact Orderly.fetch sound hagrees _
  | flip _ _ id =>
    have hfault := (c.frame_flipFavorite id).store.fault
    exact Orderly.done (hfault.trans sound) (fun _ => Client.agrees_flipFavorite sound id) _
  | noToggle => exact Orderly.done (c := c.prompt _) sound hagrees _
  | noBooking => exact Orderly.done (c := c.prompt _) sound hagrees _
  | dropVisit v =>
    have hframe := c.frame_dropVisit v.id
    refine Orderly.done (hframe.store.fault.trans sound) (fun hout => ?_) _
    rw [hframe.session] at hout
    refine (hagrees hout).of_frame hframe (mt Option.some.inj (by decide)) ?_
    unfold Client.dropVisit
    split <;> rfl

/-- After a log-in a user is logged in, so there is nothing to agree on. -/
theorem Orderly.loggedIn {c : Client} (sound : c.store.fault = none) (grant : LoginGrant)
    (now : Int) : Orderly (settled [] (c.loggedIn grant now)) := by
  have hheld := c.keepSession_session (Session.ofGrant grant now)
  have hfault := (c.changedAt_keepSession (Session.ofGrant grant now)).fault
  unfold Client.loggedIn
  refine Orderly.issue (hfault.trans sound) ?_ ?_ _
  · intro _
    rw [hheld]
    exact Option.some_ne_none _
  · intro hout
    rw [hheld] at hout
    cases hout

/-- After a renewal a user is logged in too. -/
theorem Orderly.renewed {c : Client} (sound : c.store.fault = none) (s : Session)
    (grant : TokenGrant) (now : Int) :
    Orderly (settled [] (c.succeed now (.refreshSession s) grant)) := by
  have hheld := c.keepSession_session (s.renewed grant now)
  have hfault := (c.changedAt_keepSession (s.renewed grant now)).fault
  obtain ⟨a, ha⟩ := c.done_of_succeed now (p := .refreshSession s) nofun grant
  rw [ha, c.succeed_refreshSession s grant now]
  refine Orderly.done (hfault.trans sound) ?_ a
  intro hout
  rw [hheld] at hout
  cases hout

/-- Success without a session ends an operation. -/
theorem Orderly.succeed {c : Client} (sound : c.store.fault = none) {p : Pending}
    (needs : p.needsSession = true → c.session ≠ none)
    (agrees : c.session = none → p ≠ .signOut → c.Agrees) (hgrants : p.grants = false)
    (now : Int) (payload : p.Payload) : Orderly (settled [] (c.succeed now p payload)) := by
  have hframe := c.frame_succeed now hgrants payload
  have hlogIn : p ≠ .logIn := by
    rintro rfl
    cases hgrants
  obtain ⟨a, ha⟩ := c.done_of_succeed now hlogIn payload
  rw [ha]
  refine Orderly.done (hframe.store.fault.trans sound) ?_ a
  intro hout
  rw [hframe.session] at hout
  -- only a sign-out may have waited while the favorites were not those of the device
  by_cases hp : p = .signOut
  · subst hp
    exact c.agrees_afterSignOut
  · have hfree : p.needsSession = false :=
      Bool.eq_false_iff.mpr fun hneeds => needs hneeds hout
    exact (agrees hout hp).succeed hout now hfree hgrants payload

/-- An operation that is taken up again keeps what holds between events. -/
theorem Orderly.resume {c : Client} (sound : c.store.fault = none) {p : Pending}
    (needs : p.needsSession = true → c.session ≠ none)
    (agrees : c.session = none → p ≠ .signOut → c.Agrees) (r : Reply) (now : Int) :
    Orderly (settled [] (c.resume p r now)) := by
  cases hread : p.read r with
  | error e =>
    rw [Client.resume_of_error hread]
    exact Orderly.failed sound agrees e
  | ok payload =>
    rw [Client.resume_of_ok hread]
    by_cases hgrants : p.grants = false
    · exact Orderly.succeed sound needs agrees hgrants now payload
    · cases p with
      | logIn =>
        rw [c.succeed_logIn payload now]
        exact Orderly.loggedIn sound payload now
      | refreshSession s => exact Orderly.renewed sound s payload now
      | _ => exact absurd rfl hgrants

/-- Of at most one operation that waits, the one that is answered is all. -/
theorem eraseIdx_of_alone {l : List Waiting} {i : Nat} {w : Waiting} (h : l.length ≤ 1)
    (hw : l[i]? = some w) : l.eraseIdx i = [] ∧ w ∈ l := by
  obtain ⟨hi, _⟩ := List.getElem?_eq_some_iff.mp hw
  have hlength := List.length_eraseIdx_of_lt hi
  refine ⟨List.eq_nil_of_length_eq_zero ?_, List.mem_of_getElem? hw⟩
  omega

/-- A reply keeps what holds between events. -/
theorem Orderly.reply {t : Traffic} (h : Orderly t) (i : Nat) (r : Reply) (now : Int) :
    Orderly (t.after (.reply i r now)) := by
  cases hw : t.waiting[i]? with
  | none =>
    rw [after_reply_missing hw]
    exact h
  | some w =>
    obtain ⟨hnone, hmem⟩ := eraseIdx_of_alone h.alone hw
    have hafter : t.after (.reply i r now) = settled [] (t.client.resume w.pending r now) := by
      simp only [after, hw, hnone]
    rw [hafter]
    refine Orderly.resume h.sound (h.needs w hmem) (fun hout hp => h.agrees hout ?_) r now
    -- no other operation waits, so none is a sign-out if this one is not
    intro w' hmem'
    obtain ⟨v, hv⟩ := List.length_eq_one_iff.mp (Nat.le_antisymm h.alone (List.length_pos_of_mem hmem))
    rw [hv] at hmem hmem'
    rw [List.mem_singleton.mp hmem', ← List.mem_singleton.mp hmem]
    exact hp

/-- The first load settles the favorites. -/
theorem orderly_start (settings : Settings) {store : Store} (sound : store.fault = none) :
    Orderly ((opened settings store).after (.begin .start)) := by
  show Orderly (settled [] (Client.opened settings store).beginStart)
  have hb := (Client.opened settings store).begins_start
  revert hb
  generalize (Client.opened settings store).beginStart = begun
  intro hb
  cases hb with
  | refused h a => cases h
  | asked hwait r =>
    cases hwait with
    | start hs =>
      refine Orderly.issue sound (fun _ => ?_) (fun hout => ?_) r
      · rw [hs]
        exact Option.some_ne_none _
      · rw [hs] at hout
        cases hout
  | startOnDevice _ =>
    exact Orderly.done (c := (Client.opened settings store).loadDeviceFavorites) sound
      (fun _ => Client.agrees_loadDeviceFavorites _) _

/-- **Operations that run one after the other keep what holds between events.** -/
theorem Orderly.run {t : Traffic} (h : Orderly t) {es : List Event}
    (along : Along Sequential t es) : Orderly (t.run es) := by
  refine run_induction (fun u e hu hseq => ?_) h along
  cases e with
  | begin op => exact hu.begin hseq op
  | reply i r now => exact hu.reply i r now

/-! ## What is written -/

/-- The text that the device keeps of the favorites stays. -/
def KeepsFavorites (t : Traffic) (e : Event) : Prop :=
  (t.after e).client.store.get? Key.favorites = t.client.store.get? Key.favorites

/-- A toggle that begins while nobody is logged in, where that is allowed. -/
def TogglesAsGuest (t : Traffic) (e : Event) : Prop :=
  ∃ id, e = .begin (.toggle id) ∧ t.client.session = none ∧
    t.client.settings.guestFavorites = true

/-- **Only the toggle of a guest writes favorites.** -/
theorem keepsFavorites_or_toggles (t : Traffic) (e : Event) :
    t.KeepsFavorites e ∨ t.TogglesAsGuest e := by
  cases e with
  | begin op =>
    have hfree : op.writes ≠ some Key.favorites → t.KeepsFavorites (.begin op) := by
      intro hkey
      unfold KeepsFavorites
      rw [client_begin]
      -- a sign-out forgets the session first, which is kept under another key
      by_cases hout : op = .signOut
      · subst hout
        have hasked := t.client.frame_begin_signOut.store.get? Key.favorites nofun
        have hdropped := (Store.changedAt_clearSession t.client.store).get? Key.favorites hkey
        exact hasked.trans hdropped
      · exact (t.client.frame_begin hout).store.get? _ hkey
    cases op with
    | toggle id =>
      have hb := t.client.begins (.toggle id)
      unfold KeepsFavorites
      rw [client_begin]
      revert hb
      generalize t.client.begin (.toggle id) = begun
      intro hb
      cases hb with
      | refused h a => cases h
      | asked _ r => exact Or.inl ((t.client.frame_issue r _).store.get? _ nofun)
      | flip hout guest => exact Or.inr ⟨id, rfl, hout, guest⟩
      | noToggle => exact Or.inl rfl
    | signOut => exact Or.inl (hfree (mt Option.some.inj (by decide)))
    | cancelVisit v => exact Or.inl (hfree (mt Option.some.inj (by decide)))
    | _ => exact Or.inl (hfree nofun)
  | reply i r now =>
    left
    unfold KeepsFavorites
    cases hw : t.waiting[i]? with
    | none => rw [after_reply_missing hw]
    | some w =>
      rw [client_reply hw]
      exact (t.client.changedAt_resume w.pending r now).get? _ w.pending.writes_ne_favorites

/-- What the toggle of a guest does: it is done without a request, the id changes sides and no other
does, and the device keeps the favorites in their order, each once. -/
structure FlipsAsGuest (t : Traffic) (id : String) : Prop where
  asksNothing : (t.after (.begin (.toggle id))).waiting = t.waiting
  answers : ∃ notice, (t.client.begin (.toggle id)).2 = .done (.toggled (.ok notice))
  flips : ∀ k, (t.after (.begin (.toggle id))).client.favorites.contains k =
    if k = id then !t.client.favorites.contains id else t.client.favorites.contains k
  kept : (t.after (.begin (.toggle id))).client.store.get? Key.favorites =
    some (Json.Value.list .str (t.after (.begin (.toggle id))).client.favorites.keys).compact
  rising : (t.after (.begin (.toggle id))).client.favorites.keys.Pairwise (· < ·)
  loaded : (t.after (.begin (.toggle id))).client.store.loadFavorites =
    (t.after (.begin (.toggle id))).client.favorites.keys

/-- A toggle flips the favorites of the device, if nobody is logged in and that is allowed. -/
theorem begin_toggle_guest {c : Client} (hout : c.session = none)
    (guest : c.settings.guestFavorites = true) (id : String) :
    c.begin (.toggle id) = ((c.flipFavorite id).1,
      .done (.toggled (.ok ⟨id, (c.flipFavorite id).2, .device⟩))) := by
  have htoken : c.token = none := by
    unfold Client.token
    rw [hout]
    rfl
  show c.beginToggle id = _
  unfold Client.beginToggle
  rw [htoken]
  simp only [guest, if_true]
  rfl

theorem flipsAsGuest {t : Traffic} (sound : t.client.store.fault = none)
    (hout : t.client.session = none) (guest : t.client.settings.guestFavorites = true)
    (id : String) : t.FlipsAsGuest id := by
  have hbegin := begin_toggle_guest hout guest id
  have hafter : t.after (.begin (.toggle id)) =
      ⟨(t.client.flipFavorite id).1, t.waiting⟩ := by
    show settled t.waiting (t.client.begin (.toggle id)) = _
    rw [hbegin]
    rfl
  constructor
  · rw [hafter]
  · exact ⟨_, congrArg Prod.snd hbegin⟩
  · intro k
    rw [hafter]
    exact Favorites.contains_flip t.client.favorites id k
  · rw [hafter]
    have hkept := Store.get?_attempt_save t.client.store Key.favorites
      (.list .str (t.client.flipFavorite id).1.favorites.keys)
    rw [if_pos sound] at hkept
    exact hkept
  · exact KeySet.keys_rising _
  · rw [hafter]
    exact Client.loadFavorites_flipFavorite sound id

/-! ## The runs of a guest -/

/-- **The favorites of a guest are those that the device keeps**, between any two operations of a run
that begins with loading them. Nothing writes them but the toggle of a guest, which flips one id, asks
nothing, and leaves them in order on the device. -/
theorem guest_favorites_agree (settings : Settings) (entries : SortedMap String)
    (es : List Event)
    (h : Along Sequential (opened settings (.inMemory entries)) (.begin .start :: es)) :
    let t := (opened settings (.inMemory entries)).run (.begin .start :: es)
    (t.waiting = [] → t.client.session = none →
      t.client.favorites = KeySet.ofKeys t.client.store.loadFavorites) ∧
    Along (fun u e => u.KeepsFavorites e ∨ u.TogglesAsGuest e)
      (opened settings (.inMemory entries)) (.begin .start :: es) ∧
    (t.client.session = none → t.client.settings.guestFavorites = true →
      ∀ id, t.FlipsAsGuest id) := by
  intro t
  have hstart : Orderly ((opened settings (.inMemory entries)).after (.begin .start)) :=
    orderly_start settings rfl
  have horderly : Orderly t := hstart.run h.2
  refine ⟨?_, ?_, ?_⟩
  · -- with nothing waiting there is no sign-out that could still be under way
    intro idle hout
    refine horderly.agrees hout ?_
    intro w hw
    rw [idle] at hw
    exact absurd hw List.not_mem_nil
  · exact along_of_forall keepsFavorites_or_toggles _ _
  · intro hout guest id
    exact flipsAsGuest horderly.sound hout guest id

/-- A guest on a device that keeps a favorite twice and something that is no text. -/
def guest : Traffic :=
  opened sampleSettings (.inMemory (SortedMap.empty.insert Key.favorites "[\"9\", 7, \"9\"]"))

/-- The guest loads the favorites and makes one more of them. -/
theorem guest_favorites_agree_toggled :
    Along Sequential guest [.begin .start, .begin (.toggle "8")] ∧
    (guest.run [.begin .start, .begin (.toggle "8")]).client.favorites.keys = ["7", "8", "9"] ∧
    (guest.run [.begin .start, .begin (.toggle "8")]).client.favorites =
      KeySet.ofKeys (guest.run [.begin .start, .begin (.toggle "8")]).client.store.loadFavorites ∧
    (guest.run [.begin .start, .begin (.toggle "8")]).client.store.get? Key.favorites =
      some "[\"7\",\"8\",\"9\"]" := by
  have hidle : (guest.after (.begin .start)).waiting = [] := by
    apply List.eq_nil_of_length_eq_zero
    decide +kernel
  have hseq : Along Sequential guest [.begin .start, .begin (.toggle "8")] := ⟨rfl, hidle, trivial⟩
  obtain ⟨hagrees, _, _⟩ := guest_favorites_agree sampleSettings _ _ hseq
  refine ⟨hseq, ?_, hagrees ?_ ?_, ?_⟩
  · decide +kernel
  · apply List.eq_nil_of_length_eq_zero
    decide +kernel
  · decide +kernel
  · decide +kernel

end Traffic

end Shoreline
