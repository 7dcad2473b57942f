import Shoreline.Feed

/-!
# `Shoreline.Proofs.Feed.Run` — everything that can happen to a feed

Callers report locations, retry, call off, look and mark, in any order. The answers to the fetches
they start come in between, in any order too, and every kind of answer can come. A `Run` holds the
feed, the fetches that still wait for an answer, and those whose answers were applied.

The invariant `Sound` says what ties the three together: a waiting fetch has not been called off
exactly when the feed holds its ticket, and the ticket that the feed holds is the last one given out.
It is proved once for each kind of change (`Sound.still`, `Sound.launch`, `Sound.cancel`,
`Sound.answer`); what the feed's functions do is said by their equations above.

## Contents
- `Fetch`, `Landing`, `Run`, `Event`; `Run.Possible`, `Run.after`, `Run.Reachable`.
- Equations of `callOff`, `launch`, `locate`, `retry`, `cancel`, `deliver`.
- `Sound` and `Run.Reachable.sound`.
-/

namespace Shoreline.Feed

/-- A fetch that was started. -/
structure Fetch where
  ticket : Ticket
  here : Position

/-- A fetch whose answer was applied, with the answer. -/
structure Landing where
  fetch : Fetch
  result : Except Failure (List Beach)

/-- A feed in use. -/
structure Run where
  feed : Feed := {}
  /-- The fetches without an answer so far, the oldest first. -/
  waiting : List Fetch := []
  /-- The answers that were applied, in the order in which they were. -/
  applied : List Landing := []

/-- What can happen to a feed. -/
inductive Event
  | locate (l : Location)
  | retry
  | cancel
  | select (id : String)
  | mark (id : String) (isFavorite : Bool)
  | answer (f : Fetch) (result : Except Failure (List Beach))

namespace Run

/-- Only a fetch that waits can be answered. -/
def Possible (r : Run) : Event → Prop
  | .answer f _ => f ∈ r.waiting
  | _ => True

/-- Take note of what a report did to the feed; a fetch it started waits from now on. -/
def launched (r : Run) (report : Feed × Option (Ticket × Position)) : Run :=
  { r with
    feed := report.1
    waiting := r.waiting ++ (report.2.map fun l => ⟨l.1, l.2⟩).toList }

/-- A waiting fetch is answered. The answer counts as applied unless the fetch was called off. -/
def answered (r : Run) (f : Fetch) (result : Except Failure (List Beach)) : Run where
  feed := (r.feed.deliver f.ticket result).1
  waiting := r.waiting.filter (·.ticket != f.ticket)
  applied := if r.feed.calledOff.contains f.ticket then r.applied else r.applied ++ [⟨f, result⟩]

/-- The run after an event. -/
def after (r : Run) : Event → Run
  | .locate l => r.launched (r.feed.locate l)
  | .retry => r.launched r.feed.retry
  | .cancel => { r with feed := r.feed.cancel }
  | .select id => { r with feed := (r.feed.select id).1 }
  | .mark id isFavorite => { r with feed := r.feed.mark id isFavorite }
  | .answer f result => r.answered f result

/-- What a new feed can come to. -/
inductive Reachable : Run → Prop
  | new : Reachable {}
  | step {r : Run} (h : Reachable r) (e : Event) (possible : r.Possible e) : Reachable (r.after e)

/-- The waiting fetches that were not called off. -/
def live (r : Run) : List Fetch := r.waiting.filter fun f => !r.feed.calledOff.contains f.ticket

theorem mem_live {r : Run} {f : Fetch} :
    f ∈ r.live ↔ f ∈ r.waiting ∧ f.ticket ∉ r.feed.calledOff := by
  unfold live
  rw [List.mem_filter]
  simp

end Run

/-! ## What the functions of a feed do to its fetches -/

theorem callOff_calledOff (f : Feed) : f.callOff.calledOff = f.inFlight.toList ++ f.calledOff := by
  unfold callOff
  split
  · next h => rw [h]; rfl
  · next h => rw [h]; rfl

theorem callOff_started (f : Feed) : f.callOff.started = f.started := by
  unfold callOff; split <;> rfl

theorem callOff_beaches (f : Feed) : f.callOff.beaches = f.beaches := by
  unfold callOff; split <;> rfl

/-- A report is only noted, or it launches a fetch for the place it names. -/
theorem locate_cases (f : Feed) (l : Location) :
    f.locate l = ({ f with location := some l }, none) ∨
    ∃ here, l = .granted here ∧
      f.locate l = ((launch { f with location := some l } here).1, some (f.started, here)) := by
  unfold locate
  cases l with
  | pending => exact Or.inl rfl
  | denied => exact Or.inl rfl
  | granted here =>
    by_cases hat : f.isAt here = true
    · exact Or.inl (by simp only [hat, if_true])
    · refine Or.inr ⟨here, rfl, ?_⟩
      simp only [hat, Bool.false_eq_true, if_false, launch, callOff_started]

/-- A retry is a report of the location that is known, of a feed that has forgotten its place. -/
theorem retry_cases (f : Feed) :
    f.retry = (f.forgetPlace, none) ∨ ∃ l, f.retry = f.forgetPlace.locate l := by
  unfold retry
  cases f.location with
  | none => exact Or.inl rfl
  | some l => exact Or.inr ⟨l, rfl⟩

/-- An answer to a fetch that was called off changes nothing. -/
theorem deliver_of_calledOff {f : Feed} {t : Ticket} (h : t ∈ f.calledOff)
    (result : Except Failure (List Beach)) : f.deliver t result = (f, .cancelled) := by
  unfold deliver
  rw [if_pos (by simpa using h)]

/-- An answer to any other fetch ends the fetch under way. -/
theorem deliver_of_not_calledOff {f : Feed} {t : Ticket} (h : t ∉ f.calledOff)
    (result : Except Failure (List Beach)) :
    (f.deliver t result).1.inFlight = none ∧ (f.deliver t result).1.loading = false ∧
    (f.deliver t result).1.calledOff = f.calledOff ∧
    (f.deliver t result).1.started = f.started := by
  unfold deliver
  rw [if_neg (by simpa using h)]
  split <;> exact ⟨rfl, rfl, rfl, rfl⟩

/-- An answer replaces the beaches only if it holds some, for a fetch that was not called off. -/
theorem deliver_beaches (f : Feed) (t : Ticket) (result : Except Failure (List Beach)) :
    (f.deliver t result).1.beaches = f.beaches ∨
    ∃ beaches, result = .ok beaches ∧ t ∉ f.calledOff ∧ (f.deliver t result).1.beaches = beaches := by
  unfold deliver
  split
  · exact Or.inl rfl
  · next h =>
    split
    · next beaches => exact Or.inr ⟨beaches, rfl, by simpa using h, rfl⟩
    · exact Or.inl rfl
    · exact Or.inl rfl

/-- Only a list that comes for a fetch under way counts as loaded. -/
theorem deliver_loaded {f : Feed} {t : Ticket} {result : Except Failure (List Beach)} {n : Nat}
    (h : (f.deliver t result).2 = .loaded n) :
    t ∉ f.calledOff ∧ (f.deliver t result).1.beaches.length = n ∧
      result = .ok (f.deliver t result).1.beaches := by
  unfold deliver at h ⊢
  split at h
  · cases h
  · next hon =>
    rw [if_neg hon]
    split at h
    · exact ⟨by simpa using hon, Outcome.loaded.inj h, rfl⟩
    · cases h
    · cases h

/-! ## The invariant -/

/-- What holds of a feed in use between two events. -/
structure Sound (r : Run) : Prop where
  /-- The waiting fetches stand in the order in which they started. -/
  inOrder : (r.waiting.map (·.ticket)).Pairwise (· < ·)
  numbered : ∀ f ∈ r.waiting, f.ticket < r.feed.started
  calledOff_lt : ∀ t ∈ r.feed.calledOff, t < r.feed.started
  /-- The fetch that the feed holds is the last one that started, and it waits. -/
  held : ∀ t, r.feed.inFlight = some t →
    t + 1 = r.feed.started ∧ t ∉ r.feed.calledOff ∧ t ∈ r.waiting.map (·.ticket)
  /-- A fetch that waits is the one that the feed holds, or it was called off. -/
  accounted : ∀ f ∈ r.waiting, f.ticket ∉ r.feed.calledOff → r.feed.inFlight = some f.ticket
  loading : r.feed.loading = r.feed.inFlight.isSome
  applied_inOrder : (r.applied.map (·.fetch.ticket)).Pairwise (· < ·)
  /-- Every answer that was applied is older than the fetch that the feed holds. -/
  applied_lt : ∀ t ∈ r.applied.map (·.fetch.ticket),
    t < r.feed.started ∧ ∀ u, r.feed.inFlight = some u → t < u

namespace Sound

theorem new : Sound {} where
  inOrder := List.Pairwise.nil
  numbered _ h := absurd h List.not_mem_nil
  calledOff_lt _ h := absurd h List.not_mem_nil
  held _ h := nomatch h
  accounted _ h := absurd h List.not_mem_nil
  loading := rfl
  applied_inOrder := List.Pairwise.nil
  applied_lt _ h := absurd h List.not_mem_nil

/-- A change that touches none of the fetches keeps the invariant. -/
theorem still {r : Run} (h : Sound r) {f : Feed} (hin : f.inFlight = r.feed.inFlight)
    (hoff : f.calledOff = r.feed.calledOff) (hst : f.started = r.feed.started)
    (hload : f.loading = r.feed.loading) : Sound { r with feed := f } where
  inOrder := h.inOrder
  numbered g hg := hst ▸ h.numbered g hg
  calledOff_lt t ht := hst ▸ h.calledOff_lt t (hoff ▸ ht)
  held t ht := by
    obtain ⟨h1, h2, h3⟩ := h.held t (hin ▸ ht)
    exact ⟨hst ▸ h1, hoff ▸ h2, h3⟩
  accounted g hg hng := hin ▸ h.accounted g hg (hoff ▸ hng)
  loading := by rw [hload, hin]; exact h.loading
  applied_inOrder := h.applied_inOrder
  applied_lt t ht := by
    obtain ⟨h1, h2⟩ := h.applied_lt t ht
    exact ⟨hst ▸ h1, fun u hu => h2 u (hin ▸ hu)⟩

/-- Once the fetch under way is called off, every waiting fetch is. -/
theorem mem_callOff {r : Run} (h : Sound r) {f : Fetch} (hf : f ∈ r.waiting) :
    f.ticket ∈ r.feed.callOff.calledOff := by
  rw [callOff_calledOff]
  -- a fetch that waits and was not called off is the one that the feed holds
  by_cases hoff : f.ticket ∈ r.feed.calledOff
  · exact List.mem_append_right _ hoff
  · rw [h.accounted f hf hoff]
    exact List.mem_append_left _ (List.mem_singleton.mpr rfl)

/-- Tickets that were called off are still numbered below the next one. -/
theorem callOff_lt {r : Run} (h : Sound r) {t : Ticket} (ht : t ∈ r.feed.callOff.calledOff) :
    t < r.feed.started := by
  rw [callOff_calledOff] at ht
  rcases List.mem_append.mp ht with ht | ht
  · have hlast := (h.held t (Option.mem_toList.mp ht)).1
    exact hlast ▸ Nat.lt_succ_self t
  · exact h.calledOff_lt t ht

/-- A new fetch calls off the one before it and is held in its place. -/
theorem launch {r : Run} (h : Sound r) (here : Position) :
    Sound (r.launched ((r.feed.launch here).1, some (r.feed.started, here))) where
  inOrder := by
    simp only [Run.launched, Option.map_some, Option.toList_some, List.map_append, List.map_cons,
      List.map_nil]
    refine List.pairwise_append.mpr ⟨h.inOrder, List.pairwise_singleton _ _, ?_⟩
    -- the new ticket is the next number, so it comes after all that wait
    intro t ht u hu
    obtain ⟨f, hf, rfl⟩ := List.mem_map.mp ht
    rw [List.mem_singleton.mp hu]
    exact h.numbered f hf
  numbered f hf := by
    show f.ticket < r.feed.callOff.started + 1
    rw [callOff_started]
    rcases List.mem_append.mp hf with hf | hf
    · exact Nat.lt_succ_of_lt (h.numbered f hf)
    · rw [List.mem_singleton.mp hf]
      exact Nat.lt_succ_self _
  calledOff_lt t ht := by
    show t < r.feed.callOff.started + 1
    rw [callOff_started]
    exact Nat.lt_succ_of_lt (h.callOff_lt ht)
  held t ht := by
    have he : r.feed.callOff.started = t := Option.some.inj ht
    refine ⟨congrArg (· + 1) he.symm, ?_, ?_⟩
    · -- what was called off has a smaller number
      intro hoff
      have hlt := h.callOff_lt hoff
      rw [← he, callOff_started] at hlt
      exact Nat.lt_irrefl _ hlt
    · rw [← he, callOff_started]
      simp [Run.launched]
  accounted f hf hoff := by
    show some r.feed.callOff.started = some f.ticket
    rcases List.mem_append.mp hf with hf | hf
    · -- every older fetch is called off by now
      exact absurd (h.mem_callOff hf) hoff
    · rw [callOff_started, List.mem_singleton.mp hf]
  loading := rfl
  applied_inOrder := h.applied_inOrder
  applied_lt t ht := by
    have hlt := (h.applied_lt t ht).1
    refine ⟨?_, ?_⟩
    · show t < r.feed.callOff.started + 1
      rw [callOff_started]
      exact Nat.lt_succ_of_lt hlt
    · intro u hu
      have he : r.feed.callOff.started = u := Option.some.inj hu
      rw [← he, callOff_started]
      exact hlt

/-- After a call-off every fetch that waits was called off. -/
theorem cancel {r : Run} (h : Sound r) : Sound { r with feed := r.feed.cancel } := by
  unfold Feed.cancel
  cases hin : r.feed.inFlight with
  | none => exact h.still rfl rfl rfl rfl
  | some t =>
    have hnone : r.feed.callOff.inFlight = none := by
      unfold callOff; rw [hin]
    exact {
      inOrder := h.inOrder
      numbered := fun f hf => by
        show f.ticket < r.feed.callOff.started
        rw [callOff_started]
        exact h.numbered f hf
      calledOff_lt := fun u hu => by
        show u < r.feed.callOff.started
        rw [callOff_started]
        exact h.callOff_lt hu
      held := fun u hu => by
        have hu' : r.feed.callOff.inFlight = some u := hu
        rw [hnone] at hu'
        cases hu'
      accounted := fun f hf hoff => absurd (h.mem_callOff hf) hoff
      loading := by
        show false = r.feed.callOff.inFlight.isSome
        rw [hnone]
        rfl
      applied_inOrder := h.applied_inOrder
      applied_lt := fun u hu => by
        refine ⟨?_, fun v hv => ?_⟩
        · show u < r.feed.callOff.started
          rw [callOff_started]
          exact (h.applied_lt u hu).1
        · have hv' : r.feed.callOff.inFlight = some v := hv
          rw [hnone] at hv'
          cases hv' }

/-- Of the waiting fetches only the one that is answered goes. -/
theorem mem_answered {r : Run} {f g : Fetch} {result : Except Failure (List Beach)} :
    g ∈ (r.answered f result).waiting ↔ g ∈ r.waiting ∧ g.ticket ≠ f.ticket := by
  unfold Run.answered
  rw [List.mem_filter]
  simp

theorem answered_inOrder {r : Run} (h : Sound r) (f : Fetch)
    (result : Except Failure (List Beach)) :
    ((r.answered f result).waiting.map (·.ticket)).Pairwise (· < ·) :=
  h.inOrder.sublist (List.filter_sublist.map _)

/-- An answer to a fetch that was called off only ends its waiting. -/
theorem answer_calledOff {r : Run} (h : Sound r) {f : Fetch} (hoff : f.ticket ∈ r.feed.calledOff)
    (result : Except Failure (List Beach)) : Sound (r.answered f result) := by
  have hfeed : (r.answered f result).feed = r.feed := by
    show (r.feed.deliver f.ticket result).1 = r.feed
    rw [deliver_of_calledOff hoff]
  have happlied : (r.answered f result).applied = r.applied := if_pos (by simpa using hoff)
  exact {
    inOrder := h.answered_inOrder f result
    numbered := fun g hg => by
      rw [hfeed]
      exact h.numbered g (mem_answered.mp hg).1
    calledOff_lt := by
      rw [hfeed]
      exact h.calledOff_lt
    held := fun t ht => by
      rw [hfeed] at ht ⊢
      obtain ⟨hlast, hnot, hmem⟩ := h.held t ht
      obtain ⟨g, hg, rfl⟩ := List.mem_map.mp hmem
      refine ⟨hlast, hnot, List.mem_map.mpr ⟨g, mem_answered.mpr ⟨hg, ?_⟩, rfl⟩⟩
      intro he
      exact hnot (he ▸ hoff)
    accounted := fun g hg hnot => by
      rw [hfeed] at hnot ⊢
      exact h.accounted g (mem_answered.mp hg).1 hnot
    loading := by
      rw [hfeed]
      exact h.loading
    applied_inOrder := by
      rw [happlied]
      exact h.applied_inOrder
    applied_lt := by
      rw [hfeed, happlied]
      exact h.applied_lt }

/-- An answer to the fetch that the feed holds is newer than all that were applied before. -/
theorem answer_live {r : Run} (h : Sound r) {f : Fetch} (hf : f ∈ r.waiting)
    (hnot : f.ticket ∉ r.feed.calledOff) (result : Except Failure (List Beach)) :
    Sound (r.answered f result) := by
  obtain ⟨hin, hload, hoff, hst⟩ := deliver_of_not_calledOff hnot result
  have hheld : r.feed.inFlight = some f.ticket := h.accounted f hf hnot
  have happlied : (r.answered f result).applied = r.applied ++ [⟨f, result⟩] :=
    if_neg (by simpa using hnot)
  have hnone : ∀ t, (r.answered f result).feed.inFlight ≠ some t := fun t ht => by
    have ht' : (r.feed.deliver f.ticket result).1.inFlight = some t := ht
    rw [hin] at ht'
    cases ht'
  exact {
    inOrder := h.answered_inOrder f result
    numbered := fun g hg => by
      show g.ticket < (r.feed.deliver f.ticket result).1.started
      rw [hst]
      exact h.numbered g (mem_answered.mp hg).1
    calledOff_lt := fun t ht => by
      show t < (r.feed.deliver f.ticket result).1.started
      rw [hst]
      exact h.calledOff_lt t (hoff ▸ ht)
    held := fun t ht => absurd ht (hnone t)
    accounted := fun g hg hgnot => by
      -- the feed holds one ticket only, and it has just been answered
      obtain ⟨hgw, hne⟩ := mem_answered.mp hg
      have hg' : r.feed.inFlight = some g.ticket := h.accounted g hgw (hoff ▸ hgnot)
      exact absurd (Option.some.inj (hg'.symm.trans hheld)) hne
    loading := by
      show (r.feed.deliver f.ticket result).1.loading =
        (r.feed.deliver f.ticket result).1.inFlight.isSome
      rw [hin, hload]
      rfl
    applied_inOrder := by
      rw [happlied, List.map_append]
      refine List.pairwise_append.mpr ⟨h.applied_inOrder, List.pairwise_singleton _ _, ?_⟩
      -- all that was applied before is older than the fetch that the feed held
      intro t ht u hu
      rw [List.mem_singleton.mp hu]
      exact (h.applied_lt t ht).2 f.ticket hheld
    applied_lt := fun t ht => by
      refine ⟨?_, fun u hu => absurd hu (hnone u)⟩
      show t < (r.feed.deliver f.ticket result).1.started
      rw [hst]
      rw [happlied, List.map_append] at ht
      rcases List.mem_append.mp ht with ht | ht
      · exact (h.applied_lt t ht).1
      · rw [List.mem_singleton.mp ht]
        exact h.numbered f hf }

/-- A report keeps the invariant, whether it is only noted or launches a fetch. -/
theorem locate {r : Run} (h : Sound r) (l : Location) : Sound (r.launched (r.feed.locate l)) := by
  rcases locate_cases r.feed l with hl | ⟨here, _, hl⟩
  · rw [hl]
    have hstill : Sound { r with feed := { r.feed with location := some l } } :=
      h.still rfl rfl rfl rfl
    simpa [Run.launched] using hstill
  · rw [hl]
    have hnoted : Sound { r with feed := { r.feed with location := some l } } :=
      h.still rfl rfl rfl rfl
    exact hnoted.launch here

theorem retry {r : Run} (h : Sound r) : Sound (r.launched r.feed.retry) := by
  have hforgot : Sound { r with feed := r.feed.forgetPlace } := h.still rfl rfl rfl rfl
  rcases retry_cases r.feed with hr | ⟨l, hr⟩
  · rw [hr]
    simpa [Run.launched] using hforgot
  · rw [hr]
    exact hforgot.locate l

theorem select {r : Run} (h : Sound r) (id : String) :
    Sound { r with feed := (r.feed.select id).1 } := by
  unfold Feed.select
  split
  · exact h.still rfl rfl rfl rfl
  · exact h

/-- **One event keeps the invariant.** -/
theorem after {r : Run} (h : Sound r) (e : Event) (possible : r.Possible e) :
    Sound (r.after e) := by
  cases e with
  | locate l => exact h.locate l
  | retry => exact h.retry
  | cancel => exact h.cancel
  | select id => exact h.select id
  | mark id isFavorite => exact h.still rfl rfl rfl rfl
  | answer f result =>
    by_cases hoff : f.ticket ∈ r.feed.calledOff
    · exact h.answer_calledOff hoff result
    · exact h.answer_live possible hoff result

end Sound

/-- **The invariant holds of every feed in use.** -/
theorem Run.Reachable.sound {r : Run} (h : r.Reachable) : Sound r := by
  -- by induction on the events; one of them keeps it by `Sound.after`
  induction h with
  | new => exact Sound.new
  | step _ e possible ih => exact ih.after e possible

end Shoreline.Feed
