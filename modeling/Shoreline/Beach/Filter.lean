import Shoreline.Beach

/-!
# `Shoreline.Beach.Filter` — which beaches are shown

A list of beaches passes three stages: favorites only, the search, and a curated tag. A tag is a
short list of codes that someone chose, and its order is the order of display. Without a tag the
order of the list stays as it is.

## Contents
- `CuratedTag` with its `codes` and `rank`; `CuratedTag.ofText`.
- `Filter` and `Filter.apply`.
- `firstMatch`: the beach that a search jumps to.
-/

namespace Shoreline

open Text Json

/-! ## Curated tags -/

/-- A curated list of beaches. -/
inductive CuratedTag
  | trending | popular | festival
deriving DecidableEq, Repr

namespace CuratedTag

/-- The name of a tag. -/
def name : CuratedTag → String
  | trending => "trending"
  | popular => "popular"
  | festival => "festival"

/-- The codes of its beaches in the order of display. -/
def codes : CuratedTag → List String
  | trending => ["GWANGALLI", "SONGDO"]
  | popular => ["HAEUNDAE", "GWANGALLI"]
  | festival => ["HAEUNDAE"]

/-- The tag of a name. -/
def named? : String → Option CuratedTag
  | "trending" => some trending
  | "popular" => some popular
  | "festival" => some festival
  | _ => none

/-- The tag of a name in any case, or the name that is none. -/
def ofText (raw : String) : Except String CuratedTag :=
  let name := lowerAscii (trim raw)
  match named? name with
  | some tag => .ok tag
  | none => .error name

/-- What is said about a name that is no tag's. -/
def unknownMessage (name : String) : String := "unknown curated tag: " ++ name

/-- A tag as a JSON value. -/
def decoder : Decoder CuratedTag := Decoder.oneOf named?

/-- The place of a code in the order of display; codes that are not on the list come last. -/
def rank (tag : CuratedTag) (code : String) : Nat := tag.codes.idxOf code

/-- Whether a code is on the list. -/
def includes (tag : CuratedTag) (code : String) : Bool := tag.codes.contains code

theorem named?_name (tag : CuratedTag) : named? tag.name = some tag := by cases tag <;> rfl

end CuratedTag

/-! ## Filters -/

/-- What the user asked to see. -/
structure Filter where
  query : String := ""
  favoritesOnly : Bool := false
  tag : Option CuratedTag := none
deriving DecidableEq, Repr, Inhabited

/-- What a search looks for: the query without blanks around it, in small letters. -/
def needle (query : String) : String := lowercase (trim query)

namespace Filter

/-- The beach passes the stages of favorites and search. -/
def admits (f : Filter) (favorites : KeySet) (b : Beach) : Bool :=
  (!f.favoritesOnly || favorites.contains b.id) &&
    ((needle f.query).isEmpty || b.matchesQuery (needle f.query))

/-- The beaches to show. A tag keeps the beaches on its list and puts them in its order; beaches with
one code stay in the order they had. -/
def apply (f : Filter) (favorites : KeySet) (beaches : List Beach) : List Beach :=
  let admitted := beaches.filter (f.admits favorites)
  match f.tag with
  | none => admitted
  | some tag =>
    (admitted.filter fun b => tag.includes b.code).mergeSort
      fun a b => tag.rank a.code ≤ tag.rank b.code

end Filter

/-- The first beach that a search finds; a blank query finds none. -/
def firstMatch (beaches : List Beach) (query : String) : Option Beach :=
  if (needle query).isEmpty then none else beaches.find? (·.matchesQuery (needle query))

end Shoreline
