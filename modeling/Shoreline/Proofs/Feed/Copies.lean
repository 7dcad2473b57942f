import Mathlib.Data.List.Induction
import Shoreline.Proofs.Feed.Shown
import Shoreline.Proofs.Http.Reply

/-!
# `Shoreline.Proofs.Feed.Copies` — the beach that is looked at and the same beach in the list

The beach that is looked at is a copy. A mark reaches both the copy and the list, and `select` takes a new
copy from the list. A list that is applied replaces the beaches only: the copy stays as it was, and the list
may mark that beach otherwise. So after a fetch the two can show different marks until the beach is marked or
looked at again, or until a list comes that agrees with the copy.

## Contents
- `ShowsAs`: a list has the mark of a beach, with `showsAs_of_find`, `showsAs_head`, `showsAs_mark_iff`.
- `Agrees`, `Run.Fits`, `Run.Settles`.
- `agrees_after_iff`: what one event does, and `agrees_along_iff`: what a run does.
- `marks_agree_iff`, with a run in which a beach has two marks.
-/

namespace Shoreline.Feed

open Http

/-! ## The mark of a beach in a list -/

/-- The first beach of a list with the id of `b`, if there is one, has the mark of `b`. -/
def ShowsAs (l : List Beach) (b : Beach) : Prop :=
  ∀ a, l.find? (·.id == b.id) = some a → a.isFavorite = b.isFavorite

/-- A beach that was found by its id has its own mark. -/
theorem showsAs_of_find {l : List Beach} {id : String} {b : Beach}
    (h : l.find? (·.id == id) = some b) : ShowsAs l b := by
  intro a ha
  have hid : b.id = id := by simpa using List.find?_some h
  rw [hid, h] at ha
  rw [Option.some.inj ha]

/-- So has the first beach of all. -/
theorem showsAs_head {l : List Beach} {b : Beach} (h : l.head? = some b) : ShowsAs l b := by
  cases l with
  | nil => cases h
  | cons c l =>
    obtain rfl := Option.some.inj h
    have hfound : (c :: l).find? (·.id == c.id) = some c := by simp
    exact showsAs_of_find hfound

/-- Marks leave the ids, so a beach is found where it was found before. -/
theorem find?_mark (l : List Beach) (id k : String) (isFavorite : Bool) :
    (l.map (markBeach id isFavorite)).find? (·.id == k) =
      (l.find? (·.id == k)).map (markBeach id isFavorite) := by
  rw [List.find?_map]
  congr 2
  funext b
  simp

/-- **A mark that reaches both sides settles them if it is for this beach**, and else leaves them. -/
theorem showsAs_mark_iff (l : List Beach) (id : String) (isFavorite : Bool) (b : Beach) :
    ShowsAs (l.map (markBeach id isFavorite)) (markBeach id isFavorite b) ↔
      b.id = id ∨ ShowsAs l b := by
  have hmark : ∀ a, l.find? (·.id == b.id) = some a →
      ((markBeach id isFavorite a).isFavorite = (markBeach id isFavorite b).isFavorite ↔
        b.id = id ∨ a.isFavorite = b.isFavorite) := by
    intro a ha
    have hid : a.id = b.id := by simpa using List.find?_some ha
    rw [markBeach_isFavorite, markBeach_isFavorite, hid]
    by_cases h : b.id = id <;> simp [h]
  unfold ShowsAs
  rw [markBeach_id, find?_mark]
  simp only [Option.map_eq_some_iff, forall_exists_index, and_imp, forall_apply_eq_imp_iff₂]
  constructor
  · intro h
    by_cases hid : b.id = id
    · exact .inl hid
    · exact .inr fun a ha => ((hmark a ha).mp (h a ha)).resolve_left hid
  · rintro (hid | h) a ha
    · exact (hmark a ha).mpr (.inl hid)
    · exact (hmark a ha).mpr (.inr (h a ha))

/-! ## The two copies -/

/-- The beach that is looked at has the mark of the first beach in the list with its id, if there is one. -/
def Agrees (f : Feed) : Prop := ∀ b, f.current = some b → ShowsAs f.beaches b

/-- A feed without a beach to look at has one copy only. -/
theorem agrees_of_none {f : Feed} (h : f.current = none) : f.Agrees := by
  intro b hb
  rw [h] at hb
  cases hb

/-- Only the list and the beach that is looked at count. -/
theorem agrees_congr {f g : Feed} (hcurrent : g.current = f.current) (hbeaches : g.beaches = f.beaches) :
    g.Agrees ↔ f.Agrees := by
  unfold Agrees
  rw [hcurrent, hbeaches]

theorem agrees_locate (f : Feed) (l : Location) : (f.locate l).1.Agrees ↔ f.Agrees := by
  rcases locate_cases f l with hl | ⟨here, _, hl⟩
  · rw [hl]
    exact agrees_congr rfl rfl
  · rw [hl]
    exact agrees_congr (callOff_current _) (callOff_beaches _)

theorem agrees_retry (f : Feed) : f.retry.1.Agrees ↔ f.Agrees := by
  rcases retry_cases f with hr | ⟨l, hr⟩
  · rw [hr]
    exact agrees_congr rfl rfl
  · rw [hr, agrees_locate]
    exact agrees_congr rfl rfl

theorem agrees_cancel (f : Feed) : f.cancel.Agrees ↔ f.Agrees := by
  unfold cancel
  split
  · exact agrees_congr f.callOff_current f.callOff_beaches
  · exact agrees_congr rfl rfl

/-- Looking at a beach of the list makes the copies one. -/
theorem agrees_select_iff (f : Feed) (id : String) :
    (f.select id).1.Agrees ↔ (∃ b ∈ f.beaches, b.id = id) ∨ f.Agrees := by
  unfold select
  cases hfind : f.beaches.find? (·.id == id) with
  | some a =>
    refine iff_of_true ?_ (.inl ⟨a, List.mem_of_find?_eq_some hfind, ?_⟩)
    · intro b hb
      obtain rfl := Option.some.inj hb
      exact showsAs_of_find hfind
    · simpa using List.find?_some hfind
  | none =>
    refine (or_iff_right ?_).symm
    rintro ⟨b, hb, hid⟩
    exact List.find?_eq_none.mp hfind b hb (by simpa using hid)

/-- A mark makes them agree if it is for the beach that is looked at. -/
theorem agrees_mark_iff (f : Feed) (id : String) (isFavorite : Bool) :
    (f.mark id isFavorite).Agrees ↔ (∃ b, f.current = some b ∧ b.id = id) ∨ f.Agrees := by
  cases hcurrent : f.current with
  | none =>
    have hnone : (f.mark id isFavorite).current = none := by simp [mark, hcurrent]
    exact iff_of_true (agrees_of_none hnone) (.inr (agrees_of_none hcurrent))
  | some b =>
    have hone := showsAs_mark_iff f.beaches id isFavorite b
    simpa [Agrees, mark, hcurrent] using hone

/-- A list that is applied makes them agree if it has the mark of the beach that is looked at, and else
parts them. -/
theorem agrees_deliver_iff {f : Feed} {t : Ticket} (h : t ∉ f.calledOff) (beaches : List Beach) :
    (f.deliver t (.ok beaches)).1.Agrees ↔ ∀ b, f.current = some b → ShowsAs beaches b := by
  unfold deliver
  rw [if_neg (by simpa using h)]
  cases hcurrent : f.current with
  | none =>
    refine iff_of_true ?_ nofun
    intro b hb
    apply showsAs_head
    simpa [hcurrent] using hb
  | some b => simp [Agrees]

/-- Any other answer leaves them. -/
theorem agrees_deliver_of_error (f : Feed) (t : Ticket) (e : Failure) :
    (f.deliver t (.error e)).1.Agrees ↔ f.Agrees := by
  unfold deliver
  split
  · exact Iff.rfl
  · cases e <;> exact agrees_congr rfl rfl

/-! ## Events -/

/-- A list that is applied has the mark of the beach that is looked at, or does not hold that beach. -/
def Run.Fits (r : Run) : Event → Prop
  | .answer f (.ok beaches) => f.ticket ∉ r.feed.calledOff →
      ∀ b, r.feed.current = some b → ShowsAs beaches b
  | _ => True

/-- The event decides whether the copies agree, whatever they were before: a list is applied, a beach of the
list is looked at, or the one that is looked at is marked. -/
def Run.Settles (r : Run) : Event → Prop
  | .answer f (.ok _) => f.ticket ∉ r.feed.calledOff
  | .select id => ∃ b ∈ r.feed.beaches, b.id = id
  | .mark id _ => ∃ b, r.feed.current = some b ∧ b.id = id
  | _ => False

/-- **One event leaves copies that agree** exactly if it is no list that parts them, and they agreed before
or are settled by it. -/
theorem agrees_after_iff (r : Run) (e : Event) :
    (r.after e).feed.Agrees ↔ r.Fits e ∧ (r.Settles e ∨ r.feed.Agrees) := by
  cases e with
  | locate l => simpa [Run.after, Run.launched, Run.Fits, Run.Settles] using agrees_locate r.feed l
  | retry => simpa [Run.after, Run.launched, Run.Fits, Run.Settles] using agrees_retry r.feed
  | cancel => simpa [Run.after, Run.Fits, Run.Settles] using agrees_cancel r.feed
  | select id => simpa [Run.after, Run.Fits, Run.Settles] using agrees_select_iff r.feed id
  | mark id isFavorite => simpa [Run.after, Run.Fits, Run.Settles] using agrees_mark_iff r.feed id isFavorite
  | answer f result =>
    show (r.feed.deliver f.ticket result).1.Agrees ↔ _
    cases result with
    | error e => simpa [Run.Fits, Run.Settles] using agrees_deliver_of_error r.feed f.ticket e
    | ok beaches =>
      by_cases hoff : f.ticket ∈ r.feed.calledOff
      · rw [deliver_of_calledOff hoff]
        simp [Run.Fits, Run.Settles, hoff]
      · rw [agrees_deliver_iff hoff]
        simp [Run.Fits, Run.Settles, hoff]

/-- **The copies agree all along a run exactly if every list that is applied fits.** -/
theorem agrees_along_iff {r : Run} (h : r.feed.Agrees) (es : List Event) :
    (∀ early, early <+: es → (r.through early).feed.Agrees) ↔
      ∀ early e, early ++ [e] <+: es → (r.through early).Fits e := by
  have hstep : ∀ early e, r.through (early ++ [e]) = (r.through early).after e := by
    intro early e
    simp [Run.through]
  constructor
  · intro hall early e hprefix
    have hnext := hall _ hprefix
    rw [hstep, agrees_after_iff] at hnext
    exact hnext.1
  · intro hfits early
    -- the copies agree before the last event of each beginning, and that event fits
    induction early using List.reverseRecOn with
    | nil => exact fun _ => h
    | append_singleton early e ih =>
      intro hprefix
      rw [hstep, agrees_after_iff]
      exact ⟨hfits early e hprefix, .inr (ih ((List.prefix_append _ _).trans hprefix))⟩

/-- **When the beach that is looked at has the mark that the list shows.** In every run from a new feed it
does all along exactly if every list that is applied while a beach is looked at has the mark of that beach,
or does not hold it. After such a list, after the beach is marked and after a beach of the list is looked at
the two agree, whatever they were before; after a list that marks the beach otherwise they do not; and all
other events leave them as they were. -/
theorem marks_agree_iff (es : List Event) :
    ((∀ early, early <+: es → (Run.through {} early).feed.Agrees) ↔
      ∀ early e, early ++ [e] <+: es → (Run.through {} early).Fits e) ∧
    ∀ e, ((Run.through {} es).after e).feed.Agrees ↔
      (Run.through {} es).Fits e ∧ ((Run.through {} es).Settles e ∨ (Run.through {} es).feed.Agrees) :=
  ⟨agrees_along_iff (agrees_of_none rfl) es, fun e => agrees_after_iff _ e⟩

/-! ## Two marks -/

/-- The server answers with one beach, which is a favorite or none. -/
def oneMarked (isFavorite : Bool) : Reply :=
  .answered ⟨200, some jsonType,
    .whole (Text.encode (Json.Value.arr [.obj [("id", .str "7"), ("isFavorite", .bool isFavorite)]]).compact)⟩

/-- The reply reads as a list with that beach. -/
theorem beaches_oneMarked (isFavorite : Bool) :
    ∃ b, Api.beaches (oneMarked isFavorite) = .ok [b] ∧ b.id = "7" ∧ b.isFavorite = isFavorite := by
  have hread : (Api.beaches (oneMarked isFavorite)).toOption.map
      (List.map fun b => (b.id, b.isFavorite)) = some [("7", isFavorite)] := by
    cases isFavorite <;> decide +kernel
  obtain ⟨l, hlist, hl⟩ := exists_of_toOption_map hread
  obtain ⟨b, rfl⟩ := List.length_eq_one_iff.mp (by simpa using congrArg List.length hl)
  exact ⟨b, hlist, by simpa using hl⟩

/-- A position is reported and its beach comes; the beaches are fetched again, and now the server marks the
beach as a favorite. -/
def markedMeanwhile (here : Position) : List Event :=
  [.locate (.granted here), .answer ⟨0, here⟩ (Api.beaches (oneMarked false)), .retry,
    .answer ⟨1, here⟩ (Api.beaches (oneMarked true))]

/-- What the feed shows after these events. -/
theorem through_markedMeanwhile (here : Position) :
    Run.Admits {} (markedMeanwhile here) ∧
    ∃ b c, (Run.through {} (markedMeanwhile here)).feed.current = some b ∧
      (Run.through {} (markedMeanwhile here)).feed.beaches = [c] ∧
      b.id = "7" ∧ b.isFavorite = false ∧ c.id = "7" ∧ c.isFavorite = true := by
  obtain ⟨b, hb, hbid, hbmark⟩ := beaches_oneMarked false
  obtain ⟨c, hc, hcid, hcmark⟩ := beaches_oneMarked true
  have hevents : markedMeanwhile here = [.locate (.granted here), .answer ⟨0, here⟩ (.ok [b]), .retry,
      .answer ⟨1, here⟩ (.ok [c])] := by
    unfold markedMeanwhile
    rw [hb, hc]
  rw [hevents]
  refine ⟨⟨trivial, trivial, ?_, ⟨_, hb.symm⟩, trivial, trivial, ?_, ⟨_, hc.symm⟩, trivial⟩, b, c, rfl, rfl,
    hbid, hbmark, hcid, hcmark⟩
  · exact List.mem_singleton.mpr rfl
  · exact List.mem_singleton.mpr rfl

/-- **A beach has two marks.** The list shows it as a favorite, and the copy that is looked at shows it as
none. -/
theorem copy_keeps_old_mark :
    Run.Admits {} (markedMeanwhile ⟨35, 129⟩) ∧
    (Run.through {} (markedMeanwhile ⟨35, 129⟩)).feed.beaches.map (fun b => (b.id, b.isFavorite)) =
      [("7", true)] ∧
    (Run.through {} (markedMeanwhile ⟨35, 129⟩)).feed.current.map (fun b => (b.id, b.isFavorite)) =
      some ("7", false) ∧
    ¬ (Run.through {} (markedMeanwhile ⟨35, 129⟩)).feed.Agrees := by
  obtain ⟨hadmits, b, c, hcurrent, hbeaches, hbid, hbmark, hcid, hcmark⟩ :=
    through_markedMeanwhile ⟨35, 129⟩
  refine ⟨hadmits, ?_, ?_, ?_⟩
  · simp [hbeaches, hcid, hcmark]
  · simp [hcurrent, hbid, hbmark]
  · intro hagrees
    have hsame := hagrees b hcurrent c (by simp [hbeaches, hcid, hbid])
    rw [hcmark, hbmark] at hsame
    cases hsame

/-- Once the user makes that beach a favorite, the copy and the list agree again. -/
theorem marks_agree_iff_marked :
    (Run.through {} (markedMeanwhile ⟨35, 129⟩)).Settles (.mark "7" true) ∧
    ((Run.through {} (markedMeanwhile ⟨35, 129⟩)).after (.mark "7" true)).feed.Agrees := by
  obtain ⟨_, b, _, hcurrent, _, hbid, _⟩ := through_markedMeanwhile ⟨35, 129⟩
  have hsettles : (Run.through {} (markedMeanwhile ⟨35, 129⟩)).Settles (.mark "7" true) :=
    ⟨b, hcurrent, hbid⟩
  obtain ⟨_, hafter⟩ := marks_agree_iff (markedMeanwhile ⟨35, 129⟩)
  exact ⟨hsettles, (hafter _).mpr ⟨trivial, .inl hsettles⟩⟩

end Shoreline.Feed
