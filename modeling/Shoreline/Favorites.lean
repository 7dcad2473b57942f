import Shoreline.Beach
import Shoreline.Failure

/-!
# `Shoreline.Favorites` — sets of favorite beaches

Favorites are a set of ids. The set of a user who is logged in comes from the server, and every list
of beaches that is fetched may add to it; the set of other users is the one that the device keeps.

## Contents
- `FavoriteSource`, `ToggleNotice`, `ToggleFault`.
- `Favorites.flip`: one id changes sides.
- `Favorites.merge`: the ids that a list of beaches marks are added and counted.
-/

namespace Shoreline

open Text

/-- Where a set of favorites comes from. -/
inductive FavoriteSource
  | server
  /-- The device. -/
  | device
deriving DecidableEq, Repr

/-- The name of a source. -/
def FavoriteSource.name : FavoriteSource → String
  | server => "server"
  | device => "local"

/-- A beach that was made a favorite, or none. -/
structure ToggleNotice where
  beachId : String
  isFavorite : Bool
  source : FavoriteSource
deriving DecidableEq, Repr

/-- Why a beach stays what it was. -/
inductive ToggleFault
  | loginRequired
  /-- The server no longer accepts the access token. -/
  | sessionExpired
  | failed (failure : Failure)

namespace ToggleFault

/-- The prompt that is shown to users who are not logged in. -/
def loginPrompt : String := "찜과 알림을 관리하려면 로그인하세요."

/-- The text of a fault. -/
def message : ToggleFault → String
  | loginRequired => "Login required"
  | sessionExpired => "Session expired"
  | failed failure => failure.message

/-- What to tell the user. -/
def userMessage : ToggleFault → String
  | loginRequired => loginPrompt
  | sessionExpired => loginPrompt
  | failed _ => "찜 상태 변경에 실패했습니다. 다시 시도해주세요."

end ToggleFault

namespace Favorites

/-- The set in which an id has changed sides. -/
def flip (ids : KeySet) (id : String) : KeySet := if ids.contains id then ids.erase id else ids.add id

/-- The set in which an id is on the side it should be. -/
def put (ids : KeySet) (id : String) (isFavorite : Bool) : KeySet :=
  if isFavorite then ids.add id else ids.erase id

/-- Add an id, and count it if it is new. -/
def addCounted (state : KeySet × Nat) (id : String) : KeySet × Nat :=
  if state.1.contains id then state else (state.1.add id, state.2 + 1)

/-- Add the beaches of a list that are marked as favorites, and count the new ones. -/
def merge (ids : KeySet) (beaches : List Beach) : KeySet × Nat :=
  ((beaches.filter (·.isFavorite)).map (·.id)).foldl addCounted (ids, 0)

theorem contains_flip (ids : KeySet) (id k : String) :
    (flip ids id).contains k = if k = id then !ids.contains id else ids.contains k := by
  unfold flip
  split
  · next h => rw [KeySet.contains_erase]; by_cases hk : k = id <;> simp [hk, h]
  · next h => rw [KeySet.contains_add]; by_cases hk : k = id <;> simp [hk, h]

theorem contains_put (ids : KeySet) (id k : String) (isFavorite : Bool) :
    (put ids id isFavorite).contains k = if k = id then isFavorite else ids.contains k := by
  unfold put
  split
  · next h => rw [KeySet.contains_add]; by_cases hk : k = id <;> simp [hk, h]
  · next h => rw [KeySet.contains_erase]; by_cases hk : k = id <;> simp [hk, h]

end Favorites

end Shoreline
