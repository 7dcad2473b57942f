import Shoreline.Proofs.Feed.Run

/-!
# `Shoreline.Proofs.Feed.Latest` — the latest position wins

Answers come in any order, but only the fetch that started last can still be applied: every older one
was called off when the next began. So the fetches whose answers were applied stand in the order in
which they started, and a list is never replaced by the answer to an older fetch.
-/

namespace Shoreline.Feed

/-- Numbers that rise strictly and are all the same are at most one number. -/
theorem eq_singleton_of_rising {l : List Ticket} (hrise : l.Pairwise (· < ·)) {t : Ticket}
    (hmem : t ∈ l) (hall : ∀ u ∈ l, u = t) : l = [t] := by
  cases l with
  | nil => exact absurd hmem List.not_mem_nil
  | cons a rest =>
    have ha : a = t := hall a List.mem_cons_self
    cases rest with
    | nil => rw [ha]
    | cons b rest =>
      have hb : b = t := hall b (List.mem_cons_of_mem _ List.mem_cons_self)
      have hlt : a < b := List.rel_of_pairwise_cons hrise List.mem_cons_self
      rw [ha, hb] at hlt
      exact absurd hlt (Nat.lt_irrefl t)

namespace Sound

/-- The fetches that wait and were not called off are those whose ticket the feed holds. -/
theorem live_tickets {r : Run} (h : Sound r) :
    r.live.map (·.ticket) = r.feed.inFlight.toList := by
  have hheld : ∀ t ∈ r.live.map (·.ticket), r.feed.inFlight = some t := by
    intro t ht
    obtain ⟨f, hf, rfl⟩ := List.mem_map.mp ht
    obtain ⟨hw, hnot⟩ := Run.mem_live.mp hf
    exact h.accounted f hw hnot
  -- the feed holds one ticket at most, so the live fetches are none or that one
  cases hin : r.feed.inFlight with
  | none =>
    apply List.eq_nil_iff_forall_not_mem.mpr
    intro t ht
    rw [hin] at hheld
    exact nomatch hheld t ht
  | some t =>
    obtain ⟨_, hnot, hmem⟩ := h.held t hin
    obtain ⟨f, hf, rfl⟩ := List.mem_map.mp hmem
    refine eq_singleton_of_rising (h.inOrder.sublist (List.filter_sublist.map _)) ?_ ?_
    · exact List.mem_map.mpr ⟨f, Run.mem_live.mpr ⟨hf, hnot⟩, rfl⟩
    · intro u hu
      exact Option.some.inj ((hheld u hu).symm.trans hin)

/-- A fetch that was not called off is the last one that started. -/
theorem live_last {r : Run} (h : Sound r) {f : Fetch} (hf : f ∈ r.live) :
    f.ticket + 1 = r.feed.started := by
  obtain ⟨hw, hnot⟩ := Run.mem_live.mp hf
  exact (h.held f.ticket (h.accounted f hw hnot)).1

/-- The feed is loading exactly while there is a fetch that was not called off. -/
theorem loading_iff {r : Run} (h : Sound r) : r.feed.loading = true ↔ r.live ≠ [] := by
  have hlive := h.live_tickets
  rw [h.loading]
  cases hin : r.feed.inFlight with
  | none =>
    rw [hin] at hlive
    simpa using hlive
  | some t =>
    rw [hin] at hlive
    simp only [Option.isSome_some, true_iff]
    intro hnil
    rw [hnil] at hlive
    cases hlive

/-- A list of beaches is replaced only by the answer to a newer fetch than any before. -/
theorem beaches_after {r : Run} (h : Sound r) (e : Event) (possible : r.Possible e) :
    (r.after e).feed.beaches = r.feed.beaches ∨
    (∃ id isFavorite, e = .mark id isFavorite) ∨
    ∃ f beaches, e = .answer f (.ok beaches) ∧ (r.after e).feed.beaches = beaches ∧
      ∀ a ∈ r.applied, a.fetch.ticket < f.ticket := by
  cases e with
  | locate l =>
    left
    show (r.feed.locate l).1.beaches = r.feed.beaches
    rcases locate_cases r.feed l with hl | ⟨here, _, hl⟩
    · rw [hl]
    · rw [hl]
      exact callOff_beaches _
  | retry =>
    left
    show r.feed.retry.1.beaches = r.feed.beaches
    rcases retry_cases r.feed with hr | ⟨l, hr⟩
    · rw [hr]
      rfl
    · rw [hr]
      rcases locate_cases r.feed.forgetPlace l with hl | ⟨here, _, hl⟩
      · rw [hl]
        rfl
      · rw [hl]
        exact callOff_beaches _
  | cancel =>
    left
    show r.feed.cancel.beaches = r.feed.beaches
    unfold Feed.cancel
    split
    · exact callOff_beaches _
    · rfl
  | select id =>
    left
    show (r.feed.select id).1.beaches = r.feed.beaches
    unfold Feed.select
    split <;> rfl
  | mark id isFavorite => exact Or.inr (Or.inl ⟨id, isFavorite, rfl⟩)
  | answer f result =>
    rcases deliver_beaches r.feed f.ticket result with hsame | ⟨beaches, rfl, hnot, hnew⟩
    · exact Or.inl hsame
    · refine Or.inr (Or.inr ⟨f, beaches, rfl, hnew, fun a ha => ?_⟩)
      -- not called off, it is the fetch that the feed holds, and that is newer than all applied
      have hheld := h.accounted f possible hnot
      exact (h.applied_lt _ (List.mem_map_of_mem ha)).2 f.ticket hheld

end Sound

/-- **The latest position wins.** Whatever happened to a feed so far, at most one of the fetches that
wait was not called off: it is the one that the feed holds and the last one that started, and the feed
is loading exactly while there is one. Its answer is applied. The answer to any other fetch is dropped
and changes nothing. So answers are applied in the order in which their fetches started, and a list is
never replaced by the answer to an older fetch. -/
theorem latest_fetch_wins {r : Run} (h : r.Reachable) :
    r.live.map (·.ticket) = r.feed.inFlight.toList ∧
    (∀ f ∈ r.live, f.ticket + 1 = r.feed.started ∧ ∀ g ∈ r.waiting, g.ticket ≤ f.ticket) ∧
    (r.feed.loading = true ↔ r.live ≠ []) ∧
    (∀ f ∈ r.live, ∀ beaches, (r.feed.deliver f.ticket (.ok beaches)).1.beaches = beaches ∧
      (r.feed.deliver f.ticket (.ok beaches)).2 = .loaded beaches.length) ∧
    (∀ f ∈ r.waiting, f ∉ r.live → ∀ result,
      r.feed.deliver f.ticket result = (r.feed, .cancelled)) ∧
    (r.applied.map (·.fetch.ticket)).Pairwise (· < ·) ∧
    ∀ e, r.Possible e →
      (r.after e).feed.beaches = r.feed.beaches ∨
      (∃ id isFavorite, e = .mark id isFavorite) ∨
      ∃ f beaches, e = .answer f (.ok beaches) ∧ (r.after e).feed.beaches = beaches ∧
        ∀ a ∈ r.applied, a.fetch.ticket < f.ticket := by
  have hs : Sound r := h.sound
  refine ⟨hs.live_tickets, ?_, hs.loading_iff, ?_, ?_, hs.applied_inOrder, hs.beaches_after⟩
  · intro f hf
    have hlast := hs.live_last hf
    refine ⟨hlast, fun g hg => ?_⟩
    have hlt : g.ticket < r.feed.started := hs.numbered g hg
    rw [← hlast] at hlt
    exact Nat.le_of_lt_succ hlt
  · intro f hf beaches
    have hnot := (Run.mem_live.mp hf).2
    unfold deliver
    rw [if_neg (by simpa using hnot)]
    exact ⟨rfl, rfl⟩
  · intro f hw hdead result
    have hoff : f.ticket ∈ r.feed.calledOff := by
      by_cases hoff : f.ticket ∈ r.feed.calledOff
      · exact hoff
      · exact absurd (Run.mem_live.mpr ⟨hw, hoff⟩) hdead
    exact deliver_of_calledOff hoff result

/-- A feed that was retried while its first fetch was under way: two fetches wait. -/
def Run.retried (here : Position) : Run := (({} : Run).after (.locate (.granted here))).after .retry

theorem Run.reachable_retried (here : Position) : (Run.retried here).Reachable :=
  (Reachable.new.step (.locate (.granted here)) trivial).step .retry trivial

/-- With two fetches under way, the answer to the first is dropped and the second is live. -/
theorem latest_fetch_wins_retried :
    (Run.retried ⟨35, 129⟩).Reachable ∧
    (Run.retried ⟨35, 129⟩).waiting.map (·.ticket) = [0, 1] ∧
    (Run.retried ⟨35, 129⟩).live.map (·.ticket) = [1] ∧
    (Run.retried ⟨35, 129⟩).feed.loading = true ∧
    (Run.retried ⟨35, 129⟩).feed.deliver 0 (.ok []) =
      ((Run.retried ⟨35, 129⟩).feed, .cancelled) := by
  have hreach := Run.reachable_retried ⟨35, 129⟩
  obtain ⟨hlive, _, hload, _, hdropped, _⟩ := latest_fetch_wins hreach
  refine ⟨hreach, rfl, hlive, hload.mpr (List.cons_ne_nil _ _), ?_⟩
  refine hdropped ⟨0, ⟨35, 129⟩⟩ List.mem_cons_self ?_ (.ok [])
  intro hmem
  exact (Run.mem_live.mp hmem).2 List.mem_cons_self

end Shoreline.Feed
