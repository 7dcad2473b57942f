import Shoreline.Proofs.Client.Conduct
import Shoreline.Proofs.Client.Search
import Shoreline.Proofs.Http.Reply
import Shoreline.Proofs.Text.KeySet

/-!
# `Shoreline.Proofs.Client.Toggle` — a toggle that the server grants

Whether a beach is a favorite is written down in three places: in the set of ids, in each beach of the feed
with its id, and in the beach that is looked at. The server's answer to a toggle reaches all three, whatever
stood there before, and nothing else: the two clients differ in just those marks, so the client after the
toggle is fixed by the one before it and the answer.

## Contents
- `Beach.withMark`: a beach once the beaches with some id are favorites, or none.
- `Client.MarkedFrom`: one client is another with the mark in all places; `marked_favorite`,
  `MarkedFrom.unique`, `markedFrom_marked`.
- `Client.begin_toggle`: what is asked.
- `Client.toggle_reaches_every_copy`, with an answer that contradicts all places.
-/

namespace Shoreline

open Text Http

/-- The beach once the beaches with an id are favorites, or none. -/
def Beach.withMark (id : String) (isFavorite : Bool) (b : Beach) : Beach :=
  { b with isFavorite := if b.id = id then isFavorite else b.isFavorite }

/-- That is how the feed marks a beach. -/
theorem Feed.markBeach_eq_withMark (id : String) (isFavorite : Bool) :
    Feed.markBeach id isFavorite = Beach.withMark id isFavorite := by
  funext b
  unfold Feed.markBeach Beach.withMark
  by_cases hid : b.id = id <;> simp [hid]

namespace Client

/-- One client is what another is once a beach was made a favorite, or none. The id is in the set exactly if
it is a favorite now, and the others are where they were; each beach in the feed and the one that is looked at
stay what and where they are, but for the mark of those with the id; and the rest is as it was. -/
structure MarkedFrom (c : Client) (id : String) (isFavorite : Bool) (d : Client) : Prop where
  favorite : d.favorites.contains id = isFavorite
  favorites : ∀ k, k ≠ id → d.favorites.contains k = c.favorites.contains k
  beaches : ∀ i : Nat, d.feed.beaches[i]? = c.feed.beaches[i]?.map (Beach.withMark id isFavorite)
  current : d.feed.current = c.feed.current.map (Beach.withMark id isFavorite)
  others : d = { c with
    favorites := d.favorites, feed := { c.feed with beaches := d.feed.beaches, current := d.feed.current } }

variable {c d : Client} {id : String} {isFavorite : Bool}

/-- Every place shows the new mark. -/
theorem MarkedFrom.marks (h : MarkedFrom c id isFavorite d) :
    (∀ b ∈ d.feed.beaches, b.id = id → b.isFavorite = isFavorite) ∧
    ∀ b, d.feed.current = some b → b.id = id → b.isFavorite = isFavorite := by
  have hmark : ∀ b a : Beach, b.withMark id isFavorite = a → a.id = id → a.isFavorite = isFavorite := by
    intro b a hab hid
    have hb : b.id = id := by simpa [← hab, Beach.withMark] using hid
    simp [← hab, Beach.withMark, hb]
  constructor
  · intro a ha
    obtain ⟨i, hi⟩ := List.mem_iff_getElem?.mp ha
    rw [h.beaches i] at hi
    obtain ⟨b, -, hab⟩ := Option.map_eq_some_iff.mp hi
    exact hmark b a hab
  · intro a ha
    rw [h.current] at ha
    obtain ⟨b, -, hab⟩ := Option.map_eq_some_iff.mp ha
    exact hmark b a hab

/-- **There is one such client only.** -/
theorem MarkedFrom.unique {e : Client} (hd : MarkedFrom c id isFavorite d)
    (he : MarkedFrom c id isFavorite e) : e = d := by
  have hfavorites : e.favorites = d.favorites := by
    apply KeySet.ext_contains
    intro k
    by_cases hk : k = id
    · rw [hk, he.favorite, hd.favorite]
    · rw [he.favorites k hk, hd.favorites k hk]
  have hbeaches : e.feed.beaches = d.feed.beaches := by
    apply List.ext_getElem?
    intro i
    rw [he.beaches, hd.beaches]
  have hcurrent : e.feed.current = d.feed.current := by rw [he.current, hd.current]
  rw [he.others, hd.others, hfavorites, hbeaches, hcurrent]

/-- Taking up the answer makes it. -/
theorem markedFrom_marked (c : Client) (id : String) (mark : Api.FavoriteMark) :
    MarkedFrom c id mark.isFavorite (c.marked id mark).1 where
  favorite := by simp [marked, Favorites.contains_put]
  favorites := by
    intro k hk
    simp [marked, Favorites.contains_put, hk]
  beaches := by simp [marked, Feed.mark, Feed.markBeach_eq_withMark]
  current := by simp [marked, Feed.mark, Feed.markBeach_eq_withMark]
  others := rfl

/-- The toggle of a user asks the server. -/
theorem begin_toggle {s : Session} (hs : c.session = some s) {sent : Sent}
    (hsent : (Api.toggleFavorite c.base s.accessToken id).send? = .ok sent) :
    c.begin (.toggle id) = (c, .ask sent (.toggle id)) := by
  have htoken : c.token = some s.accessToken := by simp [token, hs]
  show c.beginToggle id = _
  unfold beginToggle
  rw [htoken]
  exact c.issue_of_sent _ hsent

/-- **An answer reaches every copy of a mark.** A user who is logged in toggles a beach, and nothing else
runs. The server answers with success and says whether the beach is a favorite. Then that is told, as coming
from the server, and the mark is in the set, in every beach of the feed with the id and in the beach that is
looked at if it has the id, whatever was there before; nothing else has changed, so that there is only one
client that can be left. -/
theorem toggle_reaches_every_copy {s : Session} (hs : c.session = some s) (w : World) {sent : Sent}
    (hsent : (Api.toggleFavorite c.base s.accessToken id).send? = .ok sent) {r : Response}
    (hreply : w.reply [] sent = .answered r) (success : isSuccess r.status = true)
    {mark : Api.FavoriteMark} (hmark : r.decode? Api.FavoriteMark.decoder = some mark) :
    ∃ d, c.conduct w (.toggle id) =
        ((d, .toggled (.ok ⟨id, mark.isFavorite, .server⟩)), [(sent, .answered r)]) ∧
      MarkedFrom c id mark.isFavorite d ∧
      (∀ b ∈ d.feed.beaches, b.id = id → b.isFavorite = mark.isFavorite) ∧
      (∀ b, d.feed.current = some b → b.id = id → b.isFavorite = mark.isFavorite) ∧
      d.store = c.store ∧ d.session = c.session ∧
      ∀ e, MarkedFrom c id mark.isFavorite e → e = d := by
  have hread : Pending.read (.toggle id) (w.reply [] sent) = .ok mark := by
    rw [hreply]
    exact Reply.decoded_eq_ok_iff.mpr ⟨(Reply.isSuccess_iff _).mp success, hmark⟩
  have hfrom := markedFrom_marked c id mark
  obtain ⟨hbeaches, hcurrent⟩ := hfrom.marks
  refine ⟨(c.marked id mark).1, ?_, hfrom, hbeaches, hcurrent, rfl, rfl, fun e he => hfrom.unique he⟩
  have hended := conduct_answered (begin_toggle hs hsent) w (resume_of_ok hread _)
  rw [hended, hreply]
  rfl

end Client

namespace Traffic

/-! ## An answer that contradicts -/

/-- A list in which one beach stands twice, as a favorite both times, with another beach between. -/
def repeated : Reply :=
  granted (.arr [.obj [("id", .str "7"), ("isFavorite", .bool true)], .obj [("id", .str "8")],
    .obj [("id", .str "7"), ("isFavorite", .bool true)]])

/-- A server that makes every beach none. -/
def markingNone : World := ⟨fun _ _ => markedNone, fun _ => 4⟩

/-- The beach was a favorite in all places; the server answers that it is none, and it is none in all. -/
theorem toggle_reaches_every_copy_repeated :
    (havingFetched repeated).client.Reachable ∧
    (havingFetched repeated).client.favorites.contains "7" = true ∧
    (havingFetched repeated).client.feed.beaches.map (fun b => (b.id, b.isFavorite)) =
      [("7", true), ("8", false), ("7", true)] ∧
    (havingFetched repeated).client.feed.current.map (fun b => (b.id, b.isFavorite)) = some ("7", true) ∧
    ∃ d, ((havingFetched repeated).client.conduct markingNone (.toggle "7")).1 =
        (d, .toggled (.ok ⟨"7", false, .server⟩)) ∧
      (havingFetched repeated).client.MarkedFrom "7" false d := by
  have hbefore : (havingFetched repeated).client.favorites.contains "7" = true ∧
      (havingFetched repeated).client.feed.beaches.map (fun b => (b.id, b.isFavorite)) =
        [("7", true), ("8", false), ("7", true)] ∧
      (havingFetched repeated).client.feed.current.map (fun b => (b.id, b.isFavorite)) = some ("7", true) ∧
      (havingFetched repeated).client.session = some sampleSession ∧
      (Api.toggleFavorite (havingFetched repeated).client.base "a" "7").send?.isOk = true := by
    unfold havingFetched
    rw [fetching_eq]
    decide +kernel
  obtain ⟨hset, hlist, hlooks, hsession, hsendable⟩ := hbefore
  have hnone : (Response.decode? Api.FavoriteMark.decoder ⟨200, some jsonType, .whole (encode
      (Json.Value.obj [("message", .str ""), ("isFavorite", .bool false)]).compact)⟩) =
      some ⟨"", false⟩ := by decide +kernel
  obtain ⟨sent, hsent⟩ := exists_of_isOk hsendable
  obtain ⟨d, hended, hmarked, -⟩ :=
    Client.toggle_reaches_every_copy hsession markingNone hsent rfl rfl hnone
  refine ⟨reachable_havingFetched repeated, hset, hlist, hlooks, d, ?_, hmarked⟩
  simp [hended]

end Traffic

end Shoreline
