import Shoreline.Json.Value

/-!
# `Shoreline.Json.Document` — a JSON text taken apart, before anything is kept of it

A reader of records looks at the members it knows and passes over the others. What it passes over
only has to be well formed; what it keeps must also be a value: no number beyond the doubles, no
half of a surrogate pair in a string, at most 127 arrays and objects inside one another. A
`Document` is the text taken apart with these faults marked but not yet held against it, and with
repeated members still there. `keep` makes a value of it or refuses.

## Contents
- `Document`, with a string or number that no value can hold marked by `none`.
- `Document.keep`: the value, as long as the nesting leaves room.
- `Value.toDocument`: a value taken apart again.
-/

namespace Shoreline.Json

open Shoreline.Text

/-- A well-formed JSON text taken apart. -/
inductive Document
  | null
  | bool (b : Bool)
  /-- A number, unless it lies beyond the doubles. -/
  | num (n : Option Number)
  /-- A string, unless it holds half of a surrogate pair. -/
  | str (s : Option String)
  | arr (items : List Document)
  /-- The members in the order of the text, repetitions included. -/
  | obj (members : List (Option String × Document))

instance : Inhabited Document := ⟨.null⟩

/-- How many arrays and objects may stand inside one another in what is kept. -/
def maxNesting : Nat := 127

namespace Document

mutual

/-- The value of a document that may still nest `room` levels deep. Members are sorted by key; of
those with one key the last counts. -/
def keep (room : Nat) : Document → Option Value
  | null => some .null
  | bool b => some (.bool b)
  | num n => n.map .num
  | str s => s.map .str
  | arr items =>
    match room with
    | 0 => none
    | room + 1 => (keepItems room items).map .arr
  | obj members =>
    match room with
    | 0 => none
    | room + 1 => (keepMembers room [] members).map .obj

/-- The values of array items. -/
def keepItems (room : Nat) : List Document → Option (List Value)
  | [] => some []
  | d :: rest =>
    match d.keep room with
    | none => none
    | some v => (keepItems room rest).map (v :: ·)

/-- The values of object members, put among those already placed. -/
def keepMembers (room : Nat) (placed : List (String × Value)) :
    List (Option String × Document) → Option (List (String × Value))
  | [] => some placed
  | (none, _) :: _ => none
  | (some k, d) :: rest =>
    match d.keep room with
    | none => none
    | some v => keepMembers room (insertEntry k v placed) rest

end

end Document

namespace Value

mutual

/-- A value taken apart, in the order of its members. -/
def taken : Value → Document
  | null => .null
  | bool b => .bool b
  | num n => .num (some n)
  | str s => .str (some s)
  | arr items => .arr (takenItems items)
  | obj members => .obj (takenMembers members)

/-- Items taken apart. -/
def takenItems : List Value → List Document
  | [] => []
  | v :: rest => v.taken :: takenItems rest

/-- Members taken apart. -/
def takenMembers : List (String × Value) → List (Option String × Document)
  | [] => []
  | (k, v) :: rest => (some k, v.taken) :: takenMembers rest

end

/-- A value as a document. Of members with one key only the last is there. -/
def toDocument (v : Value) : Document := v.normal.taken

mutual

/-- How many arrays and objects stand inside one another. -/
def depth : Value → Nat
  | arr items => depthItems items + 1
  | obj members => depthMembers members + 1
  | _ => 0

/-- The greatest depth among items. -/
def depthItems : List Value → Nat
  | [] => 0
  | v :: rest => max v.depth (depthItems rest)

/-- The greatest depth among members. -/
def depthMembers : List (String × Value) → Nat
  | [] => 0
  | (_, v) :: rest => max v.depth (depthMembers rest)

end

end Value

end Shoreline.Json
