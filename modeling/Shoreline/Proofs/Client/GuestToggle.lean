import Shoreline.Proofs.Client.GuestFavorites

/-!
# `Shoreline.Proofs.Client.GuestToggle` — what the toggle of a guest loses

The toggle of somebody who is not logged in flips one id in the set and then writes the whole set to the
device. So what the device keeps besides is lost unless the set has it, and there are states in which it
does not: before the favorites were loaded for the first time, and while a sign-out waits, when the set
is still that of the user. This module says exactly when a toggle loses nothing, and that those two are
the only states in which it may, as long as no answer about a user's favorites comes after the user has
gone.

## Contents
- `Client.session_of_resume`: a reply never ends a session; `Agrees.begin`.
- `Traffic.Stray`, `Traffic.InStep`; `InStep.begin`, `InStep.reply`, `InStep.run`.
- `Traffic.LosesNothing`, `losesNothing_iff`, `losesNothing_all_iff`.
- `guest_toggle_loses_nothing_iff`, and two runs in which a toggle loses what the device kept.
-/

namespace Shoreline

open Text Http

/-- An operation whose reply takes the place of the favorites, or puts one of them where it should be. -/
def Pending.setsFavorites : Pending → Bool
  | startFavorites | logInFavorites _ | toggle _ => true
  | _ => false

/-- What needs a user sets favorites or gets a session. -/
theorem Pending.needsSession_of_not {p : Pending} (hsets : p.setsFavorites = false)
    (hgrants : p.grants = false) : p.needsSession = false := by
  cases p with
  | startFavorites => cases hsets
  | logInFavorites s => cases hsets
  | toggle id => cases hsets
  | refreshSession s => cases hgrants
  | _ => rfl

namespace Client

/-! ## Sessions -/

/-- Success that brings a session leaves one. -/
theorem session_of_grants (c : Client) {p : Pending} (h : p.grants = true) (now : Int)
    (payload : p.Payload) : (c.succeed now p payload).1.session ≠ none := by
  cases p with
  | logIn =>
    have hframe := c.frame_loggedIn payload now
    rw [c.succeed_logIn payload now, hframe.session, keepSession_session]
    exact Option.some_ne_none _
  | refreshSession s =>
    rw [c.succeed_refreshSession s payload now, keepSession_session]
    exact Option.some_ne_none _
  | _ => cases h

/-- A reply never ends a session. -/
theorem session_of_resume {c : Client} {p : Pending} {r : Reply} {now : Int}
    (h : (c.resume p r now).1.session = none) : c.session = none := by
  by_cases hgrants : p.grants = true
  · cases hread : p.read r with
    | ok payload =>
      rw [resume_of_ok hread] at h
      exact absurd h (c.session_of_grants hgrants now payload)
    | error e =>
      rw [resume_of_error hread] at h
      exact (c.frame_fail p e).session.symm.trans h
  · exact (c.frame_resume (Bool.eq_false_iff.mpr hgrants) r now).session.symm.trans h

/-! ## Beginnings while nobody is logged in -/

/-- A request that is asked for keeps the agreement, whether it can be sent or not. -/
theorem Agrees.issue {c : Client} (h : c.Agrees) (r : Request) (p : Pending) :
    (c.issue r p).1.Agrees := by
  rcases c.issue_cases r p with ⟨sent, hasked⟩ | ⟨message, hfailed⟩
  · rw [hasked]
    exact h
  · rw [hfailed]
    exact h.fail p _

theorem Agrees.beginFetch {c : Client} (h : c.Agrees)
    (launched : Feed × Option (Ticket × Position)) : (c.beginFetch launched).1.Agrees := by
  have hfeed : Client.Agrees { c with feed := launched.1 } := h
  rcases c.beginFetch_cases launched with ⟨r, ticket, hasked⟩ | hskipped
  · rw [hasked]
    exact hfeed.issue r _
  · rw [hskipped]
    exact hfeed

theorem Agrees.dropVisit {c : Client} (h : c.Agrees) (id : String) :
    (c.dropVisit id).1.Agrees := by
  refine h.of_frame (c.frame_dropVisit id) (mt Option.some.inj (by decide)) ?_
  unfold Client.dropVisit
  split <;> rfl

/-- **Whatever begins while nobody is logged in keeps the agreement**, if writes succeed. -/
theorem Agrees.begin {c : Client} (h : c.Agrees) (sound : c.store.fault = none)
    (hout : c.session = none) (op : Operation) : (c.begin op).1.Agrees := by
  have hb := c.begins op
  revert hb
  generalize c.begin op = begun
  intro hb
  cases hb with
  | refused _ a => exact h
  | asked _ r => exact h.issue r _
  | startOnDevice _ => exact c.agrees_loadDeviceFavorites
  | signOut hs r =>
    rw [hout] at hs
    cases hs
  | signOutAgain _ => exact c.dropSession.agrees_afterSignOut
  | locate l => exact h.beginFetch _
  | refetch => exact h.beginFetch _
  | flip _ _ id => exact agrees_flipFavorite sound id
  | noToggle => exact h
  | noBooking => exact h
  | dropVisit v => exact h.dropVisit v.id

end Client

namespace Traffic

/-! ## In step with the device -/

/-- The server answers about the favorites of a user who asked, and nobody is logged in. -/
def Stray (t : Traffic) : Event → Prop
  | .begin _ => False
  | .reply i r _ =>
    t.client.session = none ∧ ∃ w payload, t.waiting[i]? = some w ∧
      w.pending.setsFavorites = true ∧ w.pending.read r = .ok payload

/-- While nobody is logged in and no sign-out waits, the favorites are those that the device keeps. -/
def InStep (t : Traffic) : Prop :=
  t.client.session = none → (∀ w ∈ t.waiting, w.pending ≠ .signOut) → t.client.Agrees

/-- Beginnings keep the client in step with the device. -/
theorem InStep.begin {t : Traffic} (h : t.InStep) (sound : t.client.store.fault = none)
    (op : Operation) : (t.after (.begin op)).InStep := by
  intro hout hquiet
  have hbefore : ∀ w ∈ t.waiting, w.pending ≠ .signOut :=
    fun w hw => hquiet w (mem_settled_of_mem hw _)
  rw [client_begin] at hout ⊢
  by_cases hnobody : t.client.session = none
  · exact (h hnobody hbefore).begin sound hnobody op
  · by_cases hop : op = .signOut
    · subst hop
      -- the user has gone: the request waits, or it could not be sent and the sign-out has ended
      have hsettled : t.after (.begin .signOut) =
        settled t.waiting (t.client.begin .signOut) := rfl
      rw [hsettled] at hquiet
      have hb := t.client.begins .signOut
      revert hb hquiet
      generalize t.client.begin .signOut = begun
      intro hquiet hb
      cases hb with
      | refused hrefuses a => cases hrefuses
      | asked hwait r => cases hwait
      | signOutAgain hs => exact absurd hs hnobody
      | signOut hs r =>
        rcases t.client.dropSession.issue_cases r .signOut with ⟨sent, hasked⟩ | ⟨message, hfailed⟩
        · rw [hasked] at hquiet
          refine absurd rfl (hquiet ⟨.signOut, t.client.dropSession.session⟩ ?_)
          exact List.mem_append_right _ (List.mem_singleton.mpr rfl)
        · rw [hfailed]
          exact t.client.dropSession.agrees_afterSignOut
    · rw [(t.client.frame_begin hop).session] at hout
      exact absurd hout hnobody

/-- Replies keep the client in step with the device, but for stray ones. -/
theorem InStep.reply {t : Traffic} (h : t.InStep) {i : Nat} {r : Reply} {now : Int}
    (tame : ¬ t.Stray (.reply i r now)) : (t.after (.reply i r now)).InStep := by
  intro hout hquiet
  cases hw : t.waiting[i]? with
  | none =>
    rw [after_reply_missing hw] at hout hquiet ⊢
    exact h hout hquiet
  | some w =>
    rw [client_reply hw] at hout ⊢
    rw [after_reply hw] at hquiet
    have hnobody := Client.session_of_resume hout
    by_cases hp : w.pending = .signOut
    · -- the end of a sign-out loads what the device keeps, whether it was confirmed or not
      rw [hp]
      cases hread : Pending.read .signOut r with
      | ok payload =>
        rw [Client.resume_of_ok hread]
        exact t.client.agrees_afterSignOut
      | error e =>
        rw [Client.resume_of_error hread]
        exact t.client.agrees_afterSignOut
    · have hbefore : t.client.Agrees := by
        refine h hnobody fun v hv => ?_
        obtain ⟨j, hj⟩ := List.mem_iff_getElem?.mp hv
        by_cases hij : j = i
        · rw [hij, hw] at hj
          rw [← Option.some.inj hj]
          exact hp
        · refine hquiet v (mem_settled_of_mem ?_ _)
          exact List.mem_eraseIdx_iff_getElem?.mpr ⟨j, hij, hj⟩
      cases hread : w.pending.read r with
      | error e =>
        rw [Client.resume_of_error hread]
        exact hbefore.fail w.pending e
      | ok payload =>
        rw [Client.resume_of_ok hread] at hout ⊢
        have hgrants : w.pending.grants = false :=
          Bool.eq_false_iff.mpr fun hg => t.client.session_of_grants hg now payload hout
        have hsets : w.pending.setsFavorites = false :=
          Bool.eq_false_iff.mpr fun hset => tame ⟨hnobody, w, payload, hw, hset, hread⟩
        have hfree := Pending.needsSession_of_not hsets hgrants
        exact hbefore.succeed hnobody now hfree hgrants payload

/-- **Runs stay in step with the device**, as long as no stray answer comes. -/
theorem InStep.run {t : Traffic} (h : t.InStep) (sound : t.client.store.fault = none)
    {es : List Event} (tame : Along (fun u e => ¬ u.Stray e) t es) : (t.run es).InStep := by
  have hboth : (t.run es).InStep ∧ (t.run es).client.store.fault = none := by
    refine run_induction (Q := fun u => u.InStep ∧ u.client.store.fault = none)
      (fun u e ⟨hu, husound⟩ hstray => ⟨?_, (fault_after u e).trans husound⟩) ⟨h, sound⟩ tame
    cases e with
    | begin op => exact hu.begin husound op
    | reply i r now => exact hu.reply hstray
  exact hboth.1

/-- Loading the favorites brings the client in step with the device. -/
theorem inStep_start (t : Traffic) : (t.after (.begin .start)).InStep := by
  intro hout _
  rw [client_begin] at hout ⊢
  have hb := t.client.begins .start
  revert hb hout
  generalize t.client.begin .start = begun
  intro hout hb
  cases hb with
  | refused hrefuses a => cases hrefuses
  | asked hwait r =>
    cases hwait with
    | start hs =>
      rw [(t.client.frame_issue r _).session, hs] at hout
      cases hout
  | startOnDevice _ => exact t.client.agrees_loadDeviceFavorites

/-! ## What a toggle loses -/

/-- Of what the device keeps, the toggle of a guest changes one id at most. -/
def LosesNothing (t : Traffic) (id : String) : Prop :=
  ∀ k, k ≠ id →
    (k ∈ (t.after (.begin (.toggle id))).client.store.loadFavorites ↔
      k ∈ t.client.store.loadFavorites)

/-- What the device keeps after the toggle of a guest: the set with the id on its other side, or what
it kept before, if writes fail. -/
theorem mem_loadFavorites_toggle {t : Traffic} (hout : t.client.session = none)
    (guest : t.client.settings.guestFavorites = true) {id k : String} (hk : k ≠ id) :
    k ∈ (t.after (.begin (.toggle id))).client.store.loadFavorites ↔
      if t.client.store.fault = none then t.client.favorites.contains k = true
      else k ∈ t.client.store.loadFavorites := by
  rw [client_begin, begin_toggle_guest hout guest]
  by_cases sound : t.client.store.fault = none
  · rw [if_pos sound, Client.loadFavorites_flipFavorite sound, KeySet.mem_keys]
    show (Favorites.flip t.client.favorites id).contains k = true ↔ _
    rw [Favorites.contains_flip, if_neg hk]
  · have hkept := Store.get?_attempt_save t.client.store Key.favorites
      (.list .str (Favorites.flip t.client.favorites id).keys)
    rw [if_neg sound] at hkept
    have hsame : (t.client.flipFavorite id).1.store.loadFavorites =
        t.client.store.loadFavorites := Store.loadFavorites_congr hkept
    rw [if_neg sound, hsame]

/-- **A toggle loses nothing exactly if writes fail or the set has what the device keeps**, but for the
id that it flips. -/
theorem losesNothing_iff {t : Traffic} (hout : t.client.session = none)
    (guest : t.client.settings.guestFavorites = true) (id : String) :
    t.LosesNothing id ↔ t.client.store.fault ≠ none ∨
      ∀ k, k ≠ id → (k ∈ t.client.store.loadFavorites ↔ t.client.favorites.contains k = true) := by
  by_cases sound : t.client.store.fault = none
  · simp only [sound, ne_eq, not_true_eq_false, false_or]
    refine forall_congr' fun k => forall_congr' fun hk => ?_
    rw [mem_loadFavorites_toggle hout guest hk, if_pos sound]
    exact Iff.comm
  · refine iff_of_true (fun k hk => ?_) (Or.inl sound)
    rw [mem_loadFavorites_toggle hout guest hk, if_neg sound]

/-- No toggle loses anything exactly if writes fail or the client agrees with the device. -/
theorem losesNothing_all_iff {t : Traffic} (hout : t.client.session = none)
    (guest : t.client.settings.guestFavorites = true) :
    (∀ id, t.LosesNothing id) ↔ t.client.store.fault ≠ none ∨ t.client.Agrees := by
  have hagrees : t.client.Agrees ↔
      ∀ k, k ∈ t.client.store.loadFavorites ↔ t.client.favorites.contains k = true :=
    eq_comm.trans KeySet.ofKeys_eq_iff
  constructor
  · intro h
    by_cases sound : t.client.store.fault = none
    · refine Or.inr (hagrees.mpr fun k => ?_)
      -- for each id there is another one to toggle
      have hother : k ≠ k ++ "x" := by
        intro heq
        have hlength := congrArg String.length heq
        rw [String.length_append] at hlength
        exact absurd hlength (Nat.ne_of_lt (Nat.lt_succ_self _))
      rcases (losesNothing_iff hout guest (k ++ "x")).mp (h _) with hfault | hsame
      · exact absurd sound hfault
      · exact hsame k hother
    · exact Or.inl sound
  · intro h id
    refine (losesNothing_iff hout guest id).mpr (h.imp_right fun hsame k _ => ?_)
    exact hagrees.mp hsame k

/-- **When the toggle of a guest loses nothing.** In every state that a client can come to, while nobody
is logged in and guests have favorites: the toggle of an id leaves what the device keeps besides exactly
if writes fail or the set has it, and all toggles do exactly if the set is what the device keeps. So it
is once the favorites were loaded, as long as no sign-out waits and no answer about a user's favorites
came after the user had gone. -/
theorem guest_toggle_loses_nothing_iff (settings : Settings) (store : Store) (es : List Event)
    (hout : ((opened settings store).run es).client.session = none)
    (guest : ((opened settings store).run es).client.settings.guestFavorites = true) :
    let t := (opened settings store).run es
    (∀ id, t.LosesNothing id ↔ store.fault ≠ none ∨
      ∀ k, k ≠ id → (k ∈ t.client.store.loadFavorites ↔ t.client.favorites.contains k = true)) ∧
    ((∀ id, t.LosesNothing id) ↔ store.fault ≠ none ∨ t.client.Agrees) ∧
    ∀ early late, es = early ++ .begin .start :: late →
      Along (fun u e => ¬ u.Stray e) ((opened settings store).run (early ++ [.begin .start])) late →
      (∀ w ∈ t.waiting, w.pending ≠ .signOut) → ∀ id, t.LosesNothing id := by
  intro t
  have hfault : t.client.store.fault = store.fault := fault_run _ es
  refine ⟨?_, ?_, ?_⟩
  · intro id
    rw [losesNothing_iff hout guest id, hfault]
  · rw [losesNothing_all_iff hout guest, hfault]
  · intro early late hes tame hquiet
    refine (losesNothing_all_iff hout guest).mpr ?_
    by_cases sound : t.client.store.fault = none
    · -- the load brings the client in step, and what follows keeps it there
      have hstart : ((opened settings store).run (early ++ [.begin .start])).InStep := by
        rw [run_append]
        exact inStep_start _
      have hloaded : t = ((opened settings store).run (early ++ [.begin .start])).run late := by
        rw [← run_append, List.append_assoc, List.singleton_append, ← hes]
      have hsound : ((opened settings store).run (early ++ [.begin .start])).client.store.fault =
          none := by
        rw [fault_run]
        exact hfault.symm.trans sound
      have hstep : t.InStep := by
        rw [hloaded]
        exact hstart.run hsound tame
      exact Or.inr (hstep hout hquiet)
    · exact Or.inl sound

/-- A guest on a device that keeps one favorite, before anything was loaded. -/
def newcomer : Traffic :=
  opened sampleSettings (.inMemory (SortedMap.empty.insert Key.favorites "[\"1\"]"))

/-- A user without favorites, on a device that keeps one of a guest, who is signing out. -/
def leaving : Traffic :=
  (opened sampleSettings (.inMemory ((SortedMap.empty.insert Key.favorites "[\"1\"]").insert
    Key.session sampleSession.toValue.compact))).run
    [.begin .start, .reply 0 (granted (.arr [])) 1, .begin .signOut]

/-- **A toggle can lose what the device keeps**: the first one of a guest on a client that has loaded
nothing yet, and one while the sign-out of a user waits for its confirmation. -/
theorem toggle_loses_favorites :
    (newcomer.client.session = none ∧ newcomer.client.settings.guestFavorites = true ∧
      newcomer.client.store.loadFavorites = ["1"] ∧
      (newcomer.after (.begin (.toggle "2"))).client.store.loadFavorites = ["2"]) ∧
    leaving.client.session = none ∧ leaving.client.settings.guestFavorites = true ∧
      leaving.client.store.loadFavorites = ["1"] ∧
      (leaving.after (.begin (.toggle "2"))).client.store.loadFavorites = ["2"] := by
  decide +kernel

/-- The same guest loses nothing once the favorites were loaded, and something before. -/
theorem guest_toggle_loses_nothing_iff_newcomer :
    (newcomer.run [.begin .start]).client.session = none ∧
    (newcomer.run [.begin .start]).client.settings.guestFavorites = true ∧
    (newcomer.run [.begin .start]).LosesNothing "2" ∧
    newcomer.client.session = none ∧ newcomer.client.settings.guestFavorites = true ∧
    ¬ newcomer.LosesNothing "2" := by
  have hout : (newcomer.run [.begin .start]).client.session = none := by decide +kernel
  have guest : (newcomer.run [.begin .start]).client.settings.guestFavorites = true := by
    decide +kernel
  have hout' : newcomer.client.session = none := by decide +kernel
  have guest' : newcomer.client.settings.guestFavorites = true := by decide +kernel
  obtain ⟨_, _, hloaded⟩ := guest_toggle_loses_nothing_iff sampleSettings _ _ hout guest
  obtain ⟨hexact, _, _⟩ := guest_toggle_loses_nothing_iff sampleSettings _ [] hout' guest'
  refine ⟨hout, guest, hloaded [] [] rfl trivial ?_ "2", hout', guest', ?_⟩
  · intro w hw
    have hidle : (newcomer.run [.begin .start]).waiting.length = 0 := by decide +kernel
    have hnone : (newcomer.run [.begin .start]).waiting = [] := List.eq_nil_of_length_eq_zero hidle
    have hw' : w ∈ (newcomer.run [.begin .start]).waiting := hw
    rw [hnone] at hw'
    exact absurd hw' List.not_mem_nil
  · intro hnothing
    rcases (hexact "2").mp hnothing with hfault | hsame
    · exact hfault rfl
    · have hkept : "1" ∈ newcomer.client.store.loadFavorites := by decide +kernel
      have hmissing : newcomer.client.favorites.contains "1" = false := by decide +kernel
      have hheld : newcomer.client.favorites.contains "1" = true :=
        (hsame "1" (by decide)).mp hkept
      rw [hmissing] at hheld
      cases hheld

end Traffic

end Shoreline
