import Shoreline.Proofs.Client.Traffic

/-!
# `Shoreline.Proofs.Client.Deeds` — everything that is done to a client

Besides the operations that may ask the server there is what happens at once: the filter is set, a beach
is looked at, the theme is changed, a visit is written down by hand. A `Touch` is one of these. A client
in use is reached by deeds of both kinds, in any order, also while operations wait.

## Contents
- `Client.Touch`, `Client.touch`; `Touch.writes` and `frame_touch`: what a touch leaves.
- `Traffic.Deed`, `Traffic.does`, `Traffic.doesAll`; `doesAll_induction`.
- `fault_does`, `fault_doesAll`, `settings_doesAll`.
- `Client.Reachable`.
-/

namespace Shoreline

open Text Http

/-! ## Touches -/

/-- What is done to a client without asking the server. -/
inductive Client.Touch
  | setQuery (query : String)
  | setFavoritesOnly (on : Bool)
  | setTag (tag : Option CuratedTag)
  | search (query : String)
  | setTheme (theme : Theme)
  /-- The prompt to log in is raised. -/
  | prompt (message : String)
  /-- The prompt to log in is raised unless a user is logged in. -/
  | requireLogin (message : String)
  /-- A fetch that waits is called off. -/
  | cancelFetch
  | select (id : String)
  /-- A beach of the feed is marked as a favorite or as none. -/
  | mark (id : String) (isFavorite : Bool)
  | loadDeviceFavorites
  | mergeFlags (beaches : List Beach)
  | addVisit (v : Visit)
  | removeVisit (id : String)

namespace Client

/-- The client after a touch. A change that cannot be stored is none. -/
def touch (c : Client) : Touch → Client
  | .setQuery query => c.setQuery query
  | .setFavoritesOnly on => c.setFavoritesOnly on
  | .setTag tag => c.setTag tag
  | .search query => (c.search query).1
  | .setTheme theme => { c with store := c.store.attempt (c.store.saveTheme theme) }
  | .prompt message => c.prompt message
  | .requireLogin message => (c.requireLogin message).1
  | .cancelFetch => { c with feed := c.feed.cancel }
  | .select id => { c with feed := (c.feed.select id).1 }
  | .mark id isFavorite => { c with feed := c.feed.mark id isFavorite }
  | .loadDeviceFavorites => c.loadDeviceFavorites
  | .mergeFlags beaches => (c.mergeFlags beaches).1
  | .addVisit v => { c with store := c.store.attempt (c.store.addVisit v) }
  | .removeVisit id => (c.dropVisit id).1

/-- The key under which a touch writes, if there is one. -/
def Touch.writes : Touch → Option String
  | setTheme _ => some Key.theme
  | addVisit _ | removeVisit _ => some Key.visits
  | _ => none

/-- No touch writes the session. -/
theorem Touch.writes_ne_session (k : Touch) : k.writes ≠ some Key.session := by
  cases k with
  | setTheme theme => exact mt Option.some.inj (by decide)
  | addVisit v => exact mt Option.some.inj (by decide)
  | removeVisit id => exact mt Option.some.inj (by decide)
  | _ => exact nofun

/-- **A touch leaves the settings, the session and all but one key.** -/
theorem frame_touch (c : Client) (k : Touch) : Frame k.writes c (c.touch k) := by
  cases k with
  | setTheme theme => exact frame_store c (Store.ChangedAt.attempt fun _ h => Store.changedAt_set h)
  | search query =>
    show Frame none c (c.search query).1
    unfold search
    split
    · exact frame_feed c _
    · exact .refl none c
  | prompt message => exact frame_prompt c message
  | requireLogin message =>
    show Frame none c (c.requireLogin message).1
    unfold requireLogin
    split
    · exact .refl none c
    · exact frame_prompt c message
  | cancelFetch => exact frame_feed c _
  | select id => exact frame_feed c _
  | mark id isFavorite => exact frame_feed c _
  | loadDeviceFavorites => exact frame_favorites c _
  | mergeFlags beaches => exact frame_mergeFlags c beaches
  | addVisit v => exact frame_store c (Store.changedAt_addVisit _ v)
  | removeVisit id => exact frame_dropVisit c id
  | _ => exact ⟨rfl, rfl, .refl none _⟩

end Client

namespace Traffic

/-! ## Deeds -/

/-- What is done to a client in use. -/
inductive Deed
  /-- An operation begins, or the reply to one that waits arrives. -/
  | event (e : Event)
  | touch (k : Client.Touch)

/-- The traffic after a deed. -/
def does (t : Traffic) : Deed → Traffic
  | .event e => t.after e
  | .touch k => { t with client := t.client.touch k }

/-- The traffic after some deeds. -/
def doesAll (t : Traffic) (ds : List Deed) : Traffic := ds.foldl does t

theorem doesAll_cons (t : Traffic) (d : Deed) (ds : List Deed) :
    t.doesAll (d :: ds) = (t.does d).doesAll ds := rfl

/-- A run of events is one of deeds. -/
theorem run_eq_doesAll (t : Traffic) (es : List Event) : t.run es = t.doesAll (es.map .event) := by
  unfold run doesAll
  rw [List.foldl_map]
  rfl

/-- A run of deeds keeps what each of them keeps. -/
theorem doesAll_induction {P : Deed → Prop} {Q : Traffic → Prop}
    (step : ∀ t d, Q t → P d → Q (t.does d)) {t : Traffic} {ds : List Deed} (h : Q t)
    (each : ∀ d ∈ ds, P d) : Q (t.doesAll ds) := by
  induction ds generalizing t with
  | nil => exact h
  | cons d ds ih =>
    have hnext : Q (t.does d) := step t d h (each d List.mem_cons_self)
    rw [doesAll_cons]
    exact ih hnext fun d' hd' => each d' (List.mem_cons_of_mem d hd')

/-- Whether writes fail is not a matter of what is done to the client. -/
theorem fault_does (t : Traffic) (d : Deed) :
    (t.does d).client.store.fault = t.client.store.fault := by
  cases d with
  | event e => exact fault_after t e
  | touch k => exact (t.client.frame_touch k).store.fault

theorem fault_doesAll (t : Traffic) (ds : List Deed) :
    (t.doesAll ds).client.store.fault = t.client.store.fault :=
  doesAll_induction (P := fun _ => True)
    (Q := fun u => u.client.store.fault = t.client.store.fault)
    (fun u d hu _ => (fault_does u d).trans hu) rfl fun _ _ => trivial

theorem settings_does (t : Traffic) (d : Deed) : (t.does d).client.settings = t.client.settings := by
  cases d with
  | event e => exact settings_after t e
  | touch k => exact (t.client.frame_touch k).settings

/-- Whatever is done to a client, its settings stay. -/
theorem settings_doesAll (t : Traffic) (ds : List Deed) :
    (t.doesAll ds).client.settings = t.client.settings :=
  doesAll_induction (P := fun _ => True)
    (Q := fun u => u.client.settings = t.client.settings)
    (fun u d hu _ => (settings_does u d).trans hu) rfl fun _ _ => trivial

end Traffic

/-! ## Reachable clients -/

/-- Some deeds lead to this client from one that was opened on a store in memory. -/
def Client.Reachable (c : Client) : Prop :=
  ∃ settings entries ds, c = ((Traffic.opened settings (.inMemory entries)).doesAll ds).client

/-- A client that events lead to is reachable. -/
theorem Client.reachable_run (settings : Settings) (entries : SortedMap String)
    (es : List Traffic.Event) :
    ((Traffic.opened settings (.inMemory entries)).run es).client.Reachable :=
  ⟨settings, entries, es.map .event, congrArg Traffic.client (Traffic.run_eq_doesAll _ es)⟩

/-- Its writes succeed. -/
theorem Client.Reachable.sound {c : Client} (h : c.Reachable) : c.store.fault = none := by
  obtain ⟨settings, entries, ds, rfl⟩ := h
  exact Traffic.fault_doesAll _ ds

end Shoreline
