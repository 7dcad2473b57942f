import Mathlib.Data.List.Nodup
import Shoreline.Api
import Shoreline.Proofs.Feed.Latest

/-!
# `Shoreline.Proofs.Feed.Shown` — where the beaches that are shown come from

A report of the place that was fetched last is skipped. That is right only if the beaches of that place
are shown or on their way, and it must not outlast a failure. The place is written when a fetch starts
and forgotten when one fails, is called off or is to be repeated, while reports without a position leave
it alone; so what it stands for is an invariant over everything that can happen to a feed (`Shown`).

A fetch cannot end as called off without having been called off: no reply reads like that. Runs are
therefore over events whose answers are readings of replies (`Run.Admits`).

## Contents
- `markAll`, `SameButMarks`: lists that differ in marks only.
- `Event.Genuine`, `Run.Admits`, `Run.through`; `Run.lists`, `Run.lastList`: the lists that were applied.
- `Shown`, kept by each event (`Shown.after`) and so by a run (`Shown.through`).
- `current_after`: what becomes of the beach that is looked at.
- `Latest`, and `Latest.through`: what becomes of the place of the last fetch.
- `skips_only_what_is_shown`.
-/

namespace Shoreline.Feed

open Http

/-! ## Marks -/

/-- A beach after some marks, the oldest first. -/
def markAll (marks : List (String × Bool)) (b : Beach) : Beach :=
  marks.foldl (fun b m => markBeach m.1 m.2 b) b

/-- The second list is the first, but for marks that were set since. -/
def SameButMarks (l shown : List Beach) : Prop := ∃ marks, shown = l.map (markAll marks)

theorem SameButMarks.refl (l : List Beach) : SameButMarks l l := ⟨[], (List.map_id l).symm⟩

theorem SameButMarks.mark {l shown : List Beach} (h : SameButMarks l shown) (id : String)
    (isFavorite : Bool) : SameButMarks l (shown.map (markBeach id isFavorite)) := by
  obtain ⟨marks, rfl⟩ := h
  refine ⟨marks ++ [(id, isFavorite)], ?_⟩
  rw [List.map_map]
  refine List.map_congr_left fun b _ => ?_
  simp [markAll]

/-! ## Runs with answers of the server -/

/-- An answer is the reading of a reply. -/
def Event.Genuine : Event → Prop
  | .answer _ result => ∃ reply, result = Api.beaches reply
  | _ => True

/-- The fetch of a landing and the beaches that it brought, if it brought some. -/
def Landing.brought? (l : Landing) : Option (Fetch × List Beach) :=
  match l.result with
  | .ok beaches => some (l.fetch, beaches)
  | .error _ => none

namespace Run

/-- The events can happen one after the other, and their answers are readings of replies. -/
def Admits : Run → List Event → Prop
  | _, [] => True
  | r, e :: es => r.Possible e ∧ e.Genuine ∧ Admits (r.after e) es

/-- The run after some events. -/
def through (r : Run) (es : List Event) : Run := es.foldl after r

/-- The lists that were applied, with their fetches, the oldest first. -/
def lists (r : Run) : List (Fetch × List Beach) := r.applied.filterMap Landing.brought?

/-- The list that was applied last; none before the first. -/
def lastList (r : Run) : List Beach := (r.lists.getLast?.map (·.2)).getD []

/-- A fetch for a place is the only one that was not called off. -/
def OnItsWay (r : Run) (c : Position) : Prop := ∃ f, r.live = [f] ∧ f.here = c

/-- The beaches are those that a fetch for a place brought, and nothing failed since. -/
def ShowsPlace (r : Run) (c : Position) : Prop :=
  r.feed.error = none ∧ ∃ f l, (f, l) ∈ r.lists ∧ f.here = c ∧ SameButMarks l r.feed.beaches

theorem through_cons (r : Run) (e : Event) (es : List Event) :
    r.through (e :: es) = (r.after e).through es := rfl

/-- A run keeps what each of its events keeps. -/
theorem through_induction {Q : Run → Prop} {P : Event → Prop}
    (step : ∀ r e, Q r → r.Possible e → e.Genuine → P e → Q (r.after e)) {r : Run}
    {es : List Event} (h : Q r) (admits : r.Admits es) (all : ∀ e ∈ es, P e) : Q (r.through es) := by
  induction es generalizing r with
  | nil => exact h
  | cons e es ih =>
    obtain ⟨possible, genuine, later⟩ := admits
    rw [through_cons]
    exact ih (step r e h possible genuine (all e List.mem_cons_self)) later
      fun e' he' => all e' (List.mem_cons_of_mem _ he')

end Run

/-- No reply reads as a fetch that was called off. -/
theorem beaches_ne_cancelled (reply : Reply) : Api.beaches reply ≠ .error .cancelled := by
  unfold Api.beaches Reply.decoded Reply.accepted
  cases reply with
  | failed fault => exact nofun
  | answered r =>
    dsimp only
    split
    · cases hd : r.decode? Json.Decoder.value with
      | none => simp [bind, Except.bind, hd, Except.map]
      | some v => simp [bind, Except.bind, hd, Except.map]
    · exact nofun

/-! ## The invariant -/

theorem callOff_current (f : Feed) : f.callOff.current = f.current := by
  unfold callOff; split <;> rfl

theorem callOff_inFlight (f : Feed) : f.callOff.inFlight = none := by
  unfold callOff
  split
  · rfl
  · next h => exact h

/-- Fetches that wait are told apart by their tickets. -/
theorem Sound.eq_of_ticket {r : Run} (h : Sound r) {f g : Fetch} (hf : f ∈ r.waiting)
    (hg : g ∈ r.waiting) (ht : f.ticket = g.ticket) : f = g := by
  have hdifferent : (r.waiting.map (·.ticket)).Nodup := h.inOrder.imp Nat.ne_of_lt
  exact List.inj_on_of_nodup_map hdifferent hf hg ht

/-- No fetch is applied twice. -/
theorem Sound.eq_of_applied {r : Run} (h : Sound r) {a b : Landing} (ha : a ∈ r.applied)
    (hb : b ∈ r.applied) (ht : a.fetch.ticket = b.fetch.ticket) : a = b := by
  have hdifferent : (r.applied.map (·.fetch.ticket)).Nodup := h.applied_inOrder.imp Nat.ne_of_lt
  exact List.inj_on_of_nodup_map hdifferent ha hb ht

/-- What the feed shows comes from the fetches that were applied. -/
structure Shown (r : Run) : Prop where
  /-- The place of the last fetch is that of the fetch under way, or of the list that was applied
  last. -/
  placed : ∀ c, r.feed.fetchedAt = some c →
    (∃ f ∈ r.waiting, r.feed.inFlight = some f.ticket ∧ f.here = c) ∨
    (r.feed.inFlight = none ∧ r.feed.error = none ∧
      ∃ f l, r.lists.getLast? = some (f, l) ∧ f.here = c)
  /-- After a failure the place is forgotten, and nothing is under way. -/
  failed : r.feed.error ≠ none → r.feed.fetchedAt = none ∧ r.feed.inFlight = none
  beaches : SameButMarks r.lastList r.feed.beaches
  current : r.feed.current.isSome = true ↔ ∃ p ∈ r.lists, p.2 ≠ []

namespace Shown

theorem new : Shown {} where
  placed _ h := nomatch h
  failed h := absurd rfl h
  beaches := SameButMarks.refl []
  current := iff_of_false Bool.false_ne_true fun ⟨_, h, _⟩ => absurd h List.not_mem_nil

/-- While a fetch is under way there is no failure to tell. -/
theorem error_of_inFlight {r : Run} (h : Shown r) {t : Ticket} (hin : r.feed.inFlight = some t) :
    r.feed.error = none := by
  cases herr : r.feed.error with
  | none => rfl
  | some message =>
    have hnone := (h.failed (by rw [herr]; exact Option.some_ne_none _)).2
    rw [hnone] at hin
    cases hin

theorem note {r : Run} (h : Shown r) (l : Location) :
    Shown { r with feed := { r.feed with location := some l } } :=
  ⟨h.placed, h.failed, h.beaches, h.current⟩

/-- A place that is forgotten stands for nothing. -/
theorem forget {r : Run} (h : Shown r) : Shown { r with feed := r.feed.forgetPlace } :=
  ⟨fun _ => nofun, fun herr => ⟨rfl, (h.failed herr).2⟩, h.beaches, h.current⟩

/-- A new fetch is under way for the place that the feed holds from now on. -/
theorem launch {r : Run} (h : Shown r) (here : Position) :
    Shown (r.launched ((r.feed.launch here).1, some (r.feed.started, here))) where
  placed c hc := by
    refine Or.inl ⟨⟨r.feed.started, here⟩, ?_, ?_, Option.some.inj hc⟩
    · exact List.mem_append_right _ (List.mem_singleton.mpr rfl)
    · show some r.feed.callOff.started = some r.feed.started
      rw [callOff_started]
  failed herr := absurd rfl herr
  beaches := by
    show SameButMarks r.lastList r.feed.callOff.beaches
    rw [callOff_beaches]
    exact h.beaches
  current := by
    show r.feed.callOff.current.isSome = true ↔ _
    rw [callOff_current]
    exact h.current

theorem locate {r : Run} (h : Shown r) (l : Location) : Shown (r.launched (r.feed.locate l)) := by
  rcases locate_cases r.feed l with hl | ⟨here, _, hl⟩
  · rw [hl]
    simpa [Run.launched] using h.note l
  · rw [hl]
    exact (h.note l).launch here

theorem retry {r : Run} (h : Shown r) : Shown (r.launched r.feed.retry) := by
  rcases retry_cases r.feed with hr | ⟨l, hr⟩
  · rw [hr]
    simpa [Run.launched] using h.forget
  · rw [hr]
    exact h.forget.locate l

theorem cancel {r : Run} (h : Shown r) : Shown { r with feed := r.feed.cancel } := by
  unfold Feed.cancel
  split
  · refine ⟨fun _ => nofun, fun _ => ⟨rfl, r.feed.callOff_inFlight⟩, ?_, ?_⟩
    · show SameButMarks r.lastList r.feed.callOff.beaches
      rw [callOff_beaches]
      exact h.beaches
    · show r.feed.callOff.current.isSome = true ↔ _
      rw [callOff_current]
      exact h.current
  · exact h.forget

/-- Only a beach that is shown can be looked at, so a list with beaches was applied before. -/
theorem select {r : Run} (h : Shown r) (id : String) :
    Shown { r with feed := (r.feed.select id).1 } := by
  unfold Feed.select
  split
  · next b hb =>
    refine ⟨h.placed, h.failed, h.beaches, iff_of_true rfl ?_⟩
    obtain ⟨marks, hmarks⟩ := h.beaches
    have hlast : r.lastList ≠ [] := by
      intro hnil
      rw [hnil] at hmarks
      rw [hmarks] at hb
      cases hb
    unfold Run.lastList at hlast
    cases hl : r.lists.getLast? with
    | none =>
      rw [hl] at hlast
      exact absurd rfl hlast
    | some p =>
      rw [hl] at hlast
      exact ⟨p, List.mem_of_getLast? hl, hlast⟩
  · exact h

theorem mark {r : Run} (h : Shown r) (id : String) (isFavorite : Bool) :
    Shown { r with feed := r.feed.mark id isFavorite } where
  placed := h.placed
  failed := h.failed
  beaches := h.beaches.mark id isFavorite
  current := by
    show (r.feed.current.map (markBeach id isFavorite)).isSome = true ↔ _
    rw [Option.isSome_map]
    exact h.current

/-- An answer to a fetch that was called off leaves what is shown. -/
theorem answer_calledOff {r : Run} (h : Shown r) (hs : Sound r) {f : Fetch}
    (hoff : f.ticket ∈ r.feed.calledOff) (result : Except Failure (List Beach)) :
    Shown (r.answered f result) := by
  have hfeed : (r.answered f result).feed = r.feed := by
    show (r.feed.deliver f.ticket result).1 = r.feed
    rw [deliver_of_calledOff hoff]
  have happlied : (r.answered f result).applied = r.applied := if_pos (by simpa using hoff)
  have hlists : (r.answered f result).lists = r.lists := by
    unfold Run.lists
    rw [happlied]
  refine ⟨?_, ?_, ?_, ?_⟩
  · rw [hfeed, hlists]
    intro c hc
    refine (h.placed c hc).imp_left ?_
    rintro ⟨g, hg, hin, hhere⟩
    refine ⟨g, Sound.mem_answered.mpr ⟨hg, ?_⟩, hin, hhere⟩
    -- the fetch under way was not called off, so it is not the one that was answered
    intro heq
    exact (hs.held _ hin).2.1 (heq ▸ hoff)
  · rw [hfeed]
    exact h.failed
  · unfold Run.lastList
    rw [hfeed, hlists]
    exact h.beaches
  · rw [hfeed, hlists]
    exact h.current

theorem lists_answered {r : Run} {f : Fetch} (hnot : f.ticket ∉ r.feed.calledOff)
    (result : Except Failure (List Beach)) :
    (r.answered f result).lists = r.lists ++ (Landing.brought? ⟨f, result⟩).toList := by
  have happlied : (r.answered f result).applied = r.applied ++ [⟨f, result⟩] :=
    if_neg (by simpa using hnot)
  unfold Run.lists
  rw [happlied, List.filterMap_append]
  cases hb : Landing.brought? ⟨f, result⟩ <;> simp [hb]

/-- A list that is applied is the one that is shown. -/
theorem answer_list {r : Run} (h : Shown r) (hs : Sound r) {f : Fetch} (hf : f ∈ r.waiting)
    (hnot : f.ticket ∉ r.feed.calledOff) (beaches : List Beach) :
    Shown (r.answered f (.ok beaches)) := by
  have hheld : r.feed.inFlight = some f.ticket := hs.accounted f hf hnot
  have hlists : (r.answered f (.ok beaches)).lists = r.lists ++ [(f, beaches)] :=
    lists_answered hnot _
  have hsound : r.feed.error = none := h.error_of_inFlight hheld
  have hfeed : (r.answered f (.ok beaches)).feed =
      { r.feed with
        inFlight := none, loading := false, beaches := beaches
        current := r.feed.current.or beaches.head? } := by
    show (r.feed.deliver f.ticket (.ok beaches)).1 = _
    unfold deliver
    rw [if_neg (by simpa using hnot)]
  refine ⟨?_, ?_, ?_, ?_⟩
  · rw [hfeed, hlists]
    intro c hc
    refine Or.inr ⟨rfl, hsound, f, beaches, List.getLast?_concat, ?_⟩
    -- with a fetch under way, the place of the last fetch is its place
    rcases h.placed c hc with ⟨g, hg, hin, hhere⟩ | ⟨hnone, _⟩
    · have heq : f = g := hs.eq_of_ticket hf hg (Option.some.inj (hheld.symm.trans hin))
      rw [heq, hhere]
    · rw [hnone] at hheld
      cases hheld
  · rw [hfeed]
    exact fun herr => absurd hsound herr
  · unfold Run.lastList
    rw [hfeed, hlists, List.getLast?_concat]
    exact SameButMarks.refl beaches
  · rw [hfeed, hlists]
    show (r.feed.current.or beaches.head?).isSome = true ↔ _
    rw [Option.isSome_or, Bool.or_eq_true, h.current, List.isSome_head?]
    simp only [List.mem_append, List.mem_singleton, or_and_right, exists_or, exists_eq_left]

/-- A failure that is applied is told, and its place is forgotten. -/
theorem answer_failure {r : Run} (h : Shown r) {f : Fetch} (hnot : f.ticket ∉ r.feed.calledOff)
    {e : Failure} (he : e ≠ .cancelled) : Shown (r.answered f (.error e)) := by
  have hlists : (r.answered f (.error e)).lists = r.lists := by
    rw [lists_answered hnot]
    exact List.append_nil _
  have hfeed : (r.answered f (.error e)).feed =
      { r.feed with
        inFlight := none, loading := false, fetchedAt := none, error := some (messageOf e) } := by
    show (r.feed.deliver f.ticket (.error e)).1 = _
    unfold deliver
    rw [if_neg (by simpa using hnot)]
    cases e with
    | cancelled => exact absurd rfl he
    | _ => rfl
  refine ⟨?_, ?_, ?_, ?_⟩
  · rw [hfeed]
    exact fun _ => nofun
  · rw [hfeed]
    exact fun _ => ⟨rfl, rfl⟩
  · unfold Run.lastList
    rw [hfeed, hlists]
    exact h.beaches
  · rw [hfeed, hlists]
    exact h.current

/-- **One event keeps what is shown in step with what was applied.** -/
theorem after {r : Run} (h : Shown r) (hs : Sound r) {e : Event} (possible : r.Possible e)
    (genuine : e.Genuine) : Shown (r.after e) := by
  cases e with
  | locate l => exact h.locate l
  | retry => exact h.retry
  | cancel => exact h.cancel
  | select id => exact h.select id
  | mark id isFavorite => exact h.mark id isFavorite
  | answer f result =>
    by_cases hoff : f.ticket ∈ r.feed.calledOff
    · exact h.answer_calledOff hs hoff result
    · cases result with
      | ok beaches => exact h.answer_list hs possible hoff beaches
      | error failure =>
        obtain ⟨reply, hreply⟩ := genuine
        refine h.answer_failure hoff ?_
        rintro rfl
        exact beaches_ne_cancelled reply hreply.symm

end Shown

/-- **What a run shows is what it applied.** -/
theorem Shown.through {r : Run} (h : Shown r) (hs : Sound r) {es : List Event}
    (admits : r.Admits es) : Shown (r.through es) ∧ Sound (r.through es) := by
  refine Run.through_induction (Q := fun r => Shown r ∧ Sound r) (P := fun _ => True) ?_ ⟨h, hs⟩
    admits fun _ _ => trivial
  rintro r e ⟨hshown, hsound⟩ possible genuine _
  exact ⟨hshown.after hsound possible genuine, hsound.after e possible⟩

/-! ## The beach that is looked at -/

/-- Once there is a beach to look at there always is one, and only `select` turns to another. -/
theorem current_after {r : Run} {b : Beach} (h : r.feed.current = some b) (e : Event) :
    ∃ b', (r.after e).feed.current = some b' ∧
      ((∃ id, e = .select id) ∨ b' = b ∨
        ∃ id isFavorite, e = .mark id isFavorite ∧ b' = markBeach id isFavorite b) := by
  have hcallOff : r.feed.callOff.current = some b := by rw [callOff_current, h]
  have hlocate : ∀ f : Feed, f.current = some b → ∀ l, (f.locate l).1.current = some b := by
    intro f hf l
    rcases locate_cases f l with hl | ⟨here, _, hl⟩
    · rw [hl]
      exact hf
    · rw [hl]
      show (callOff { f with location := some l }).current = some b
      rw [callOff_current]
      exact hf
  cases e with
  | locate l => exact ⟨b, hlocate _ h l, Or.inr (Or.inl rfl)⟩
  | retry =>
    refine ⟨b, ?_, Or.inr (Or.inl rfl)⟩
    show r.feed.retry.1.current = some b
    rcases retry_cases r.feed with hr | ⟨l, hr⟩
    · rw [hr]
      exact h
    · rw [hr]
      exact hlocate r.feed.forgetPlace h l
  | cancel =>
    refine ⟨b, ?_, Or.inr (Or.inl rfl)⟩
    show r.feed.cancel.current = some b
    unfold Feed.cancel
    split
    · exact hcallOff
    · exact h
  | select id =>
    show ∃ b', (r.feed.select id).1.current = some b' ∧ _
    unfold Feed.select
    split
    · next b' _ => exact ⟨b', rfl, Or.inl ⟨id, rfl⟩⟩
    · exact ⟨b, h, Or.inl ⟨id, rfl⟩⟩
  | mark id isFavorite =>
    refine ⟨markBeach id isFavorite b, ?_, Or.inr (Or.inr ⟨id, isFavorite, rfl, rfl⟩)⟩
    show r.feed.current.map (markBeach id isFavorite) = _
    rw [h]
    rfl
  | answer f result =>
    refine ⟨b, ?_, Or.inr (Or.inl rfl)⟩
    show (r.feed.deliver f.ticket result).1.current = some b
    unfold deliver
    split
    · exact h
    · split
      · show r.feed.current.or _ = some b
        rw [h]
        rfl
      · exact h
      · exact h

/-! ## The place of the last fetch -/

/-- What holds once a fetch has started, as long as the feed is neither called off nor repeated: unless
a newer fetch has started, the feed holds its place, or it has failed. -/
structure Latest (f : Fetch) (r : Run) : Prop where
  numbered : f.ticket < r.feed.started
  alone : ∀ g ∈ r.waiting, g.ticket = f.ticket → g = f
  placed : r.feed.started = f.ticket + 1 →
    r.feed.fetchedAt = some f.here ∨ ∃ e, ⟨f, .error e⟩ ∈ r.applied

namespace Latest

/-- What is noted of a report, or launched for it, leaves the fetch the latest, or is newer. -/
theorem locate {f : Fetch} {r : Run} (h : Latest f r) (l : Location) :
    Latest f (r.launched (r.feed.locate l)) := by
  rcases locate_cases r.feed l with hl | ⟨here, _, hl⟩
  · rw [hl]
    have hnoted : Latest f { r with feed := { r.feed with location := some l } } :=
      ⟨h.numbered, h.alone, h.placed⟩
    simpa [Run.launched] using hnoted
  · rw [hl]
    have hstarted : (launch { r.feed with location := some l } here).1.started =
        r.feed.started + 1 := by
      show (callOff { r.feed with location := some l }).started + 1 = _
      rw [callOff_started]
    refine ⟨?_, ?_, ?_⟩
    · show f.ticket < (launch { r.feed with location := some l } here).1.started
      rw [hstarted]
      exact Nat.lt_succ_of_lt h.numbered
    · intro g hg ht
      rcases List.mem_append.mp hg with hold | hnew
      · exact h.alone g hold ht
      · rw [List.mem_singleton.mp hnew] at ht
        exact absurd ht (Nat.ne_of_gt h.numbered)
    · intro hlast
      have hlast' : (launch { r.feed with location := some l } here).1.started = f.ticket + 1 := hlast
      rw [hstarted] at hlast'
      exact absurd (Nat.succ.inj hlast') (Nat.ne_of_gt h.numbered)

theorem select {f : Fetch} {r : Run} (h : Latest f r) (id : String) :
    Latest f { r with feed := (r.feed.select id).1 } := by
  unfold Feed.select
  split
  · exact ⟨h.numbered, h.alone, h.placed⟩
  · exact h

/-- An answer leaves the place, or the fetch has failed. -/
theorem answer {f g : Fetch} {r : Run} (h : Latest f r) (hs : Sound r) (hg : g ∈ r.waiting)
    (result : Except Failure (List Beach)) : Latest f (r.answered g result) := by
  have halone : ∀ g' ∈ (r.answered g result).waiting, g'.ticket = f.ticket → g' = f :=
    fun g' hg' => h.alone g' (Sound.mem_answered.mp hg').1
  by_cases hoff : g.ticket ∈ r.feed.calledOff
  · have hfeed : (r.answered g result).feed = r.feed := by
      show (r.feed.deliver g.ticket result).1 = r.feed
      rw [deliver_of_calledOff hoff]
    have happlied : (r.answered g result).applied = r.applied := if_pos (by simpa using hoff)
    refine ⟨?_, halone, ?_⟩
    · rw [hfeed]
      exact h.numbered
    · rw [hfeed, happlied]
      exact h.placed
  · have hstarted := (deliver_of_not_calledOff hoff result).2.2.2
    have happlied : (r.answered g result).applied = r.applied ++ [⟨g, result⟩] :=
      if_neg (by simpa using hoff)
    refine ⟨Nat.lt_of_lt_of_eq h.numbered hstarted.symm, halone, ?_⟩
    intro hlast
    have hlast' : r.feed.started = f.ticket + 1 := hstarted.symm.trans hlast
    rw [happlied]
    cases result with
    | ok beaches =>
      refine (h.placed hlast').imp ?_ ?_
      · intro hplace
        show (r.feed.deliver g.ticket (.ok beaches)).1.fetchedAt = _
        unfold deliver
        rw [if_neg (by simpa using hoff)]
        exact hplace
      · rintro ⟨e, he⟩
        exact ⟨e, List.mem_append_left _ he⟩
    | error e =>
      -- only the latest fetch can be answered so, and that is this one
      have hticket : g.ticket + 1 = r.feed.started := (hs.held _ (hs.accounted g hg hoff)).1
      rw [hlast'] at hticket
      obtain rfl := h.alone g hg (Nat.succ.inj hticket)
      exact Or.inr ⟨e, List.mem_append_right _ (List.mem_singleton.mpr rfl)⟩

/-- One event that neither calls off nor repeats keeps a fetch the latest, or starts a newer one. -/
theorem after {f : Fetch} {r : Run} (h : Latest f r) (hs : Sound r) {e : Event}
    (possible : r.Possible e) (calm : e ≠ .cancel ∧ e ≠ .retry) : Latest f (r.after e) := by
  cases e with
  | locate l => exact h.locate l
  | retry => exact absurd rfl calm.2
  | cancel => exact absurd rfl calm.1
  | select id => exact h.select id
  | mark id isFavorite => exact ⟨h.numbered, h.alone, h.placed⟩
  | answer g result => exact h.answer hs possible result

/-- A fetch that has just started is the latest. -/
theorem launch {r : Run} (hs : Sound r) (here : Position) :
    Latest ⟨r.feed.started, here⟩
      (r.launched ((r.feed.launch here).1, some (r.feed.started, here))) where
  numbered := by
    show r.feed.started < r.feed.callOff.started + 1
    rw [callOff_started]
    exact Nat.lt_succ_self _
  alone g hg ht := by
    rcases List.mem_append.mp hg with hold | hnew
    · exact absurd ht (Nat.ne_of_lt (hs.numbered g hold))
    · exact List.mem_singleton.mp hnew
  placed _ := Or.inl rfl

/-- What does not wait longer has started nothing. -/
theorem not_started {l waiting : List Fetch} (f : Fetch) (h : l.length ≤ waiting.length) :
    l ≠ waiting ++ [f] := by
  rintro rfl
  rw [List.length_append, List.length_singleton] at h
  omega

/-- A report that starts a fetch makes it the latest. -/
theorem report {f : Fetch} {r : Run} (hs : Sound r) (l : Location)
    (h : (r.launched (r.feed.locate l)).waiting = r.waiting ++ [f]) :
    Latest f (r.launched (r.feed.locate l)) := by
  rcases locate_cases r.feed l with hl | ⟨here, _, hl⟩
  · rw [hl] at h
    exact absurd h (not_started f (by simp [Run.launched]))
  · rw [hl] at h ⊢
    have hf : f = ⟨r.feed.started, here⟩ :=
      (List.singleton_inj.mp (List.append_cancel_left h)).symm
    have hnoted : Sound { r with feed := { r.feed with location := some l } } :=
      hs.still rfl rfl rfl rfl
    rw [hf]
    exact launch hnoted here

/-- An event that starts a fetch makes it the latest. -/
theorem started {f : Fetch} {r : Run} (hs : Sound r) {e : Event}
    (h : (r.after e).waiting = r.waiting ++ [f]) : Latest f (r.after e) := by
  cases e with
  | locate l => exact report hs l h
  | retry =>
    have hforgot : Sound { r with feed := r.feed.forgetPlace } := hs.still rfl rfl rfl rfl
    have hw : (r.launched r.feed.retry).waiting = r.waiting ++ [f] := h
    show Latest f (r.launched r.feed.retry)
    rcases retry_cases r.feed with hr | ⟨l, hr⟩
    · rw [hr] at hw
      exact absurd hw (not_started f (by simp [Run.launched]))
    · rw [hr] at hw ⊢
      exact report hforgot l hw
  | answer g result => exact absurd h (not_started f (List.length_filter_le _ _))
  | _ => exact absurd h (not_started f (Nat.le_refl _))

end Latest

/-- While a list that the latest fetch brought is the last of it, the feed holds its place. -/
theorem Latest.fetchedAt {f : Fetch} {r : Run} (h : Latest f r) (hs : Sound r)
    (hlast : r.feed.started = f.ticket + 1) {l : List Beach} (hl : (f, l) ∈ r.lists) :
    r.feed.fetchedAt = some f.here := by
  rcases h.placed hlast with hplace | ⟨e, he⟩
  · exact hplace
  · obtain ⟨⟨g, result⟩, hlanding, hbrought⟩ := List.mem_filterMap.mp hl
    -- it has not both brought a list and failed
    cases result with
    | error e' => cases hbrought
    | ok beaches =>
      obtain ⟨rfl, rfl⟩ := Prod.mk.inj (Option.some.inj hbrought)
      cases hs.eq_of_applied hlanding he rfl

/-! ## What is skipped -/

/-- The place of the last fetch is that of the fetch under way or of the beaches that are shown. -/
theorem Shown.place {r : Run} (h : Shown r) (hs : Sound r) {c : Position}
    (hc : r.feed.fetchedAt = some c) : r.OnItsWay c ∨ r.ShowsPlace c := by
  refine (h.placed c hc).imp ?_ ?_
  · rintro ⟨f, hf, hin, hhere⟩
    -- the fetch under way is the only one that was not called off
    have hlive := hs.live_tickets
    rw [hin] at hlive
    have hmem : f ∈ r.live := Run.mem_live.mpr ⟨hf, (hs.held _ hin).2.1⟩
    obtain ⟨g, hg⟩ := List.length_eq_one_iff.mp (by simpa using congrArg List.length hlive)
    rw [hg] at hmem
    exact ⟨f, by rw [hg, List.mem_singleton.mp hmem], hhere⟩
  · rintro ⟨_, herr, f, l, hlast, hhere⟩
    refine ⟨herr, f, l, List.mem_of_getLast? hlast, hhere, ?_⟩
    have hbeaches := h.beaches
    unfold Run.lastList at hbeaches
    rw [hlast] at hbeaches
    exact hbeaches

/-- A report of a place is skipped exactly if the feed holds that place. -/
theorem locate_skipped_iff (f : Feed) (here : Position) :
    (f.locate (.granted here)).2 = none ↔ ∃ c, f.fetchedAt = some c ∧ c.same here = true := by
  unfold locate isAt
  cases f.fetchedAt with
  | none => simp
  | some c => by_cases hsame : c.same here = true <;> simp [hsame]

theorem locate_of_same {f : Feed} {c here : Position} (h : f.fetchedAt = some c)
    (hsame : c.same here = true) :
    f.locate (.granted here) = ({ f with location := some (.granted here) }, none) := by
  unfold locate isAt
  simp only [h, hsame, if_true]

theorem locate_of_forgotten {f : Feed} (h : f.fetchedAt = none) (here : Position) :
    (f.locate (.granted here)).2 = some (f.started, here) := by
  unfold locate isAt
  simp only [h, Bool.false_eq_true, if_false, launch, callOff_started]

/-- **Only what is shown or on its way is skipped.** Whatever happened to a new feed: (a) the place of
the last fetch is that of the one fetch under way or of the beaches that are shown, so a report that is
skipped is of such a place; (b) after a failure the place is forgotten and nothing is under way, so
every report of a position fetches; (c) the beaches are those of the list that was applied last, but for
marks; (d) there is a beach to look at once a list with beaches was applied, it never goes, and only
`select` turns to another. And (e) once a fetch has started and brought its list, reports of its place
are skipped, as long as the feed was neither called off nor repeated and no newer fetch has started. -/
theorem skips_only_what_is_shown (es : List Event) (h : Run.Admits {} es) :
    let r := Run.through {} es
    (∀ c, r.feed.fetchedAt = some c → r.OnItsWay c ∨ r.ShowsPlace c) ∧
    (∀ here, (r.feed.locate (.granted here)).2 = none →
      ∃ c, c.same here = true ∧ (r.OnItsWay c ∨ r.ShowsPlace c)) ∧
    (r.feed.error ≠ none → r.feed.fetchedAt = none ∧ r.live = [] ∧ r.feed.loading = false ∧
      ∀ here, (r.feed.locate (.granted here)).2 = some (r.feed.started, here)) ∧
    SameButMarks r.lastList r.feed.beaches ∧
    (r.feed.current.isSome = true ↔ ∃ p ∈ r.lists, p.2 ≠ []) ∧
    (∀ e b, r.feed.current = some b → ∃ b', (r.after e).feed.current = some b' ∧
      ((∃ id, e = .select id) ∨ b' = b ∨
        ∃ id isFavorite, e = .mark id isFavorite ∧ b' = markBeach id isFavorite b)) ∧
    ∀ e f later, r.Admits (e :: later) → (r.after e).waiting = r.waiting ++ [f] →
      (∀ e' ∈ later, e' ≠ .cancel ∧ e' ≠ .retry) →
      let s := (r.after e).through later
      s.feed.started = f.ticket + 1 → (∃ l, (f, l) ∈ s.lists) →
      ∀ here, f.here.same here = true →
        s.feed.locate (.granted here) =
          ({ s.feed with location := some (.granted here) }, none) := by
  intro r
  obtain ⟨hshown, hs⟩ := Shown.new.through Sound.new h
  have hplace : ∀ c, r.feed.fetchedAt = some c → r.OnItsWay c ∨ r.ShowsPlace c :=
    fun c hc => hshown.place hs hc
  refine ⟨hplace, ?_, ?_, hshown.beaches, hshown.current, fun e b hb => current_after hb e, ?_⟩
  · intro here hskipped
    obtain ⟨c, hc, hsame⟩ := (r.feed.locate_skipped_iff here).mp hskipped
    exact ⟨c, hsame, hplace c hc⟩
  · intro herr
    obtain ⟨hforgotten, hidle⟩ := hshown.failed herr
    refine ⟨hforgotten, ?_, ?_, locate_of_forgotten hforgotten⟩
    · have hlive := hs.live_tickets
      rw [hidle] at hlive
      exact List.map_eq_nil_iff.mp hlive
    · have hload := hs.loading
      rw [hidle] at hload
      exact hload
  · intro e f later admits hstarts calm s hlast ⟨l, hl⟩ here hsame
    obtain ⟨possible, _, hlater⟩ := admits
    have hfirst : Latest f (r.after e) ∧ Sound (r.after e) :=
      ⟨Latest.started hs hstarts, hs.after e possible⟩
    obtain ⟨hlatest, hsound⟩ : Latest f s ∧ Sound s :=
      Run.through_induction (Q := fun r' => Latest f r' ∧ Sound r')
        (fun _ e' ⟨hr', hs'⟩ possible' _ calm' =>
          ⟨hr'.after hs' possible' calm', hs'.after e' possible'⟩) hfirst hlater calm
    exact locate_of_same (hlatest.fetchedAt hsound hlast hl) hsame

/-- The server answers with one beach. -/
def oneBeach : Reply :=
  .answered ⟨200, some jsonType,
    .whole (Text.encode (Json.Value.arr [.obj [("id", .str "1")]]).compact)⟩

/-- A position is reported, its beach comes and is made a favorite. -/
def arrival (here : Position) : List Event :=
  [.locate (.granted here), .answer ⟨0, here⟩ (Api.beaches oneBeach), .mark "1" true]

/-- The reply reads as a list with that beach. -/
theorem beaches_oneBeach : ∃ b, Api.beaches oneBeach = .ok [b] := by
  have hread : (Api.beaches oneBeach).toOption.map List.length = some 1 := by decide +kernel
  cases hlist : Api.beaches oneBeach with
  | error e =>
    rw [hlist] at hread
    cases hread
  | ok l =>
    rw [hlist] at hread
    obtain ⟨b, rfl⟩ := List.length_eq_one_iff.mp (Option.some.inj hread)
    exact ⟨b, rfl⟩

/-- After that the beach is shown as it came, but for its mark, and there is one to look at. Reports of
the same place were skipped since the first. -/
theorem skips_only_what_is_shown_arrival :
    Run.Admits {} (arrival ⟨35, 129⟩) ∧
    (Run.through {} (arrival ⟨35, 129⟩)).feed.beaches.map (fun b => (b.id, b.isFavorite)) =
      [("1", true)] ∧
    (Run.through {} (arrival ⟨35, 129⟩)).lastList.map (fun b => (b.id, b.isFavorite)) =
      [("1", false)] ∧
    SameButMarks (Run.through {} (arrival ⟨35, 129⟩)).lastList
      (Run.through {} (arrival ⟨35, 129⟩)).feed.beaches ∧
    (Run.through {} (arrival ⟨35, 129⟩)).ShowsPlace ⟨35, 129⟩ ∧
    (Run.through {} (arrival ⟨35, 129⟩)).feed.current.isSome = true ∧
    ∀ here, Position.same ⟨35, 129⟩ here = true →
      ((Run.through {} (arrival ⟨35, 129⟩)).feed.locate (.granted here)).2 = none := by
  obtain ⟨b, hb⟩ := beaches_oneBeach
  have hadmits : Run.Admits {} (arrival ⟨35, 129⟩) :=
    ⟨trivial, trivial, List.mem_singleton.mpr rfl, ⟨oneBeach, rfl⟩, trivial, trivial, trivial⟩
  have hstate : Run.through {} (arrival ⟨35, 129⟩) = Run.through {}
      [.locate (.granted ⟨35, 129⟩), .answer ⟨0, ⟨35, 129⟩⟩ (.ok [b]), .mark "1" true] := by
    unfold arrival
    rw [hb]
  obtain ⟨hplace, _, _, hbeaches, hcurrent, _⟩ := skips_only_what_is_shown _ hadmits
  obtain ⟨_, _, _, _, _, _, hskips⟩ := skips_only_what_is_shown [] trivial
  refine ⟨hadmits, ?_, ?_, hbeaches, ?_, ?_, ?_⟩
  · decide +kernel
  · decide +kernel
  · rcases hplace ⟨35, 129⟩ (by rw [hstate]; rfl) with ⟨f, hlive, _⟩ | hshown
    · have hidle : (Run.through {} (arrival ⟨35, 129⟩)).live = [] := by
        rw [hstate]
        rfl
      rw [hidle] at hlive
      cases hlive
    · exact hshown
  · refine hcurrent.mpr ⟨(⟨0, ⟨35, 129⟩⟩, [b]), ?_, List.cons_ne_nil _ _⟩
    rw [hstate]
    exact List.mem_singleton.mpr rfl
  · intro here hsame
    have hlater := hskips (.locate (.granted ⟨35, 129⟩)) ⟨0, ⟨35, 129⟩⟩
      [.answer ⟨0, ⟨35, 129⟩⟩ (Api.beaches oneBeach), .mark "1" true] hadmits rfl
      (by simp) (by rw [hb]; rfl) ⟨[b], by rw [hb]; exact List.mem_singleton.mpr rfl⟩ here hsame
    exact congrArg Prod.snd hlater

end Shoreline.Feed
