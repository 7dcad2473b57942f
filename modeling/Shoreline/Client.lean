import Shoreline.Beach.Filter
import Shoreline.Favorites
import Shoreline.Feed
import Shoreline.Settings
import Shoreline.Store.Record

/-!
# `Shoreline.Client` — the client between two requests

A client holds its settings, its store, the session, the feed, the favorites and the filter. What it
does without asking the server is here; what takes a request is in `Shoreline.Client.Operation`.

The session is held in memory and kept in the store. The store is read once, when the client starts;
from then on the session in memory counts.

## Contents
- `Client`, `Client.opened`.
- Sessions: `Client.keepSession`, `Client.dropSession`, `Client.requireLogin`.
- Favorites: `Client.loadDeviceFavorites`, `Client.flipFavorite`, `Client.mergeFlags`.
- The list on the screen: `Client.visible`, `Client.search`.
-/

namespace Shoreline

open Text Time

/-- The state of a client. -/
structure Client where
  settings : Settings
  store : Store
  session : Option Session
  feed : Feed := {}
  /-- The ids of the favorites. -/
  favorites : KeySet := SortedMap.empty
  filter : Filter := {}
  /-- The prompts to log in that were raised, the oldest first. -/
  prompts : List String := []

namespace Client

/-- A client on a store, with the session that was kept there. -/
def opened (settings : Settings) (store : Store) : Client :=
  { settings := settings, store := store, session := store.loadSession }

/-- The address of the server, without slashes at its end. -/
def base (c : Client) : String := trimSlashes c.settings.baseAddress

/-! ## Sessions -/

/-- The access token. -/
def token (c : Client) : Option String := c.session.map (·.accessToken)

/-- Whether a user is logged in. -/
def isLoggedIn (c : Client) : Bool := c.session.isSome

/-- Raise the prompt to log in. -/
def prompt (c : Client) (message : String) : Client := { c with prompts := c.prompts ++ [message] }

/-- Whether a user is logged in; if not, the prompt is raised. -/
def requireLogin (c : Client) (message : String) : Client × Bool :=
  if c.isLoggedIn then (c, true) else (c.prompt message, false)

/-- Hold a session and keep it. It is held even if it cannot be kept. -/
def keepSession (c : Client) (s : Session) : Client × Option StoreFault :=
  let held := { c with session := some s }
  match c.store.saveSession s with
  | .ok store => ({ held with store := store }, none)
  | .error fault => (held, some fault)

/-- Forget the session, held and kept. -/
def dropSession (c : Client) : Client :=
  { c with session := none, store := c.store.attempt c.store.clearSession }

/-- Whether the session has expired or is about to. No session counts as one that has. -/
def isExpired (c : Client) (now : Instant) : Bool :=
  (c.session.map (·.isExpired now Session.expiryBuffer)).getD true

/-! ## Favorites -/

/-- The favorites become those that the device keeps. -/
def loadDeviceFavorites (c : Client) : Client :=
  { c with favorites := KeySet.ofKeys c.store.loadFavorites }

/-- One id changes sides, and the favorites are kept on the device if that is possible. Whether the id
is a favorite now is returned. -/
def flipFavorite (c : Client) (id : String) : Client × Bool :=
  let favorites := Favorites.flip c.favorites id
  ({ c with favorites := favorites, store := c.store.attempt (c.store.saveFavorites favorites.keys) },
    favorites.contains id)

/-- Add the marked beaches of a list to the favorites of a user who is logged in, and count the new
ones. -/
def mergeFlags (c : Client) (beaches : List Beach) : Client × Nat :=
  if c.isLoggedIn then
    let merged := Favorites.merge c.favorites beaches
    ({ c with favorites := merged.1 }, merged.2)
  else (c, 0)

/-! ## The list on the screen -/

/-- Search for a text. -/
def setQuery (c : Client) (query : String) : Client := { c with filter := { c.filter with query := query } }

/-- Show favorites only, or all. -/
def setFavoritesOnly (c : Client) (on : Bool) : Client :=
  { c with filter := { c.filter with favoritesOnly := on } }

/-- Show a curated list, or all. -/
def setTag (c : Client) (tag : Option CuratedTag) : Client := { c with filter := { c.filter with tag := tag } }

/-- The beaches of the feed that pass the filter. -/
def visible (c : Client) : List Beach := c.filter.apply c.favorites c.feed.beaches

/-- Look at the first beach that a search finds. -/
def search (c : Client) (query : String) : Client × Option Beach :=
  match firstMatch c.feed.beaches query with
  | some b => ({ c with feed := (c.feed.select b.id).1 }, some b)
  | none => (c, none)

end Client

end Shoreline
