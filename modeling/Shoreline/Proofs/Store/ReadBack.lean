import Shoreline.Proofs.Json.RoundTrip
import Shoreline.Proofs.Store.Change

/-!
# `Shoreline.Proofs.Store.ReadBack` — what the client keeps is read back

A store whose writes succeed keeps the text of the value that is saved, and that text is read back as
the value. So loading gives what was saved.
-/

namespace Shoreline

open Json

namespace Json.Value

theorem exactItems_map_str (l : List String) : ExactItems (l.map str) := by
  induction l with
  | nil => trivial
  | cons s l ih => exact ⟨trivial, ih⟩

theorem depthItems_map_str (l : List String) : depthItems (l.map str) = 0 := by
  induction l with
  | nil => rfl
  | cons s l ih => simp [depthItems, depth, ih]

theorem normalItems_map_str (l : List String) : normalItems (l.map str) = l.map str := by
  induction l with
  | nil => rfl
  | cons s l ih => simp [normalItems, normal, ih]

/-- A list of texts is read back from what is written for it. -/
theorem fromText?_list_str (l : List String) :
    Decoder.value.fromText? (list str l).compact = some (list str l) := by
  have hexact : (list str l).Exact := exactItems_map_str l
  have hdepth : (list str l).depth = 1 := by rw [list, depth, depthItems_map_str]
  have hnormal : (list str l).normal = list str l := by rw [list, normal, normalItems_map_str]
  have hread := fromText?_value_compact hexact (by rw [hdepth]; decide)
  rw [hnormal] at hread
  exact hread

end Json.Value

namespace Store

/-- **Favorites that were saved are loaded**, if writes succeed. -/
theorem loadFavorites_saveFavorites {s : Store} (h : s.fault = none) (ids : List String) :
    (s.attempt (s.saveFavorites ids)).loadFavorites = ids := by
  have hkept : (s.attempt (s.saveFavorites ids)).get? Key.favorites =
      some (Value.list .str ids).compact := by
    unfold saveFavorites
    rw [get?_attempt_save, if_pos h]
  unfold loadFavorites load?
  rw [hkept, Option.bind_some, Value.fromText?_list_str]
  simp only [Value.list, List.map_map]
  exact List.map_id ids

end Store

end Shoreline
