import Shoreline.Proofs.Beach.Listing
import Shoreline.Proofs.Decimal.Finite
import Shoreline.Proofs.Json.Token

/-!
# `Shoreline.Proofs.Beach.WrittenBack` — a beach that was read stays as it is

Much of what the server says about a beach is put right when it is read: numbers become texts, texts become
numbers, an open beach is a normal one. What comes out is written in one form only, and that form is read
as the same beach. So it makes no difference how often a beach is written and read again.

A coordinate is a double in the end, and no number when it is missing. It is never infinite: a text may
name an infinite number, but then it does not count, and the numbers of JSON have finite doubles.

## Contents
- `Crowding.ofValue_name`, `Beach.written`, `Beach.fromValue?_toValue`.
- `Number.Sound`, `Degrees.toFloat`, `Degrees.doubleOf`, `Degrees.toFloat_ofValue?`.
- `Beach.standing`; `Beach.reading_settles`, with a beach of which every member is put right.
-/

namespace Shoreline

open Json

/-! ## Reading what was written -/

/-- A level is read from its name. -/
theorem Crowding.ofValue_name (c : Crowding) : ofValue (.str c.name) = c := by
  cases c <;> decide

namespace Beach

/-- The members that are written for a beach. -/
def written (b : Beach) : List (String × Value) :=
  [("id", .str b.id), ("code", .str b.code), ("name", .str b.name), ("status", .str b.status.name),
    ("latitude", Degrees.toValue b.latitude), ("longitude", Degrees.toValue b.longitude)] ++
  (match b.updatedAt with
    | some t => [("updatedAt", .str t)]
    | none => []) ++
  [("tag", .optionStr b.tag), ("isFavorite", .bool b.isFavorite)]

theorem toValue_eq (b : Beach) : b.toValue = .obj b.written := rfl

/-- All members are written but a time that is not known. -/
theorem keys_written (b : Beach) :
    b.written.map Prod.fst = if b.updatedAt.isSome then members else members.erase "updatedAt" := by
  unfold written
  cases b.updatedAt <;> rfl

/-- No name is written twice. -/
theorem nodup_written (b : Beach) : (b.written.map Prod.fst).Nodup := by
  have apart : members.Nodup := by decide
  rw [keys_written]
  split
  · exact apart
  · exact apart.erase _

/-- The time of the last change is found where it is written, and missing where it is left out. -/
theorem asString?_updatedAt (b : Beach) : (Value.member b.written "updatedAt").asString? = b.updatedAt := by
  cases htime : b.updatedAt with
  | some t =>
    rw [Value.member_of_mem b.nodup_written (v := .str t) (by simp [written, htime])]
    rfl
  | none =>
    have hnone : "updatedAt" ∉ b.written.map Prod.fst := by
      rw [keys_written, htime]
      decide
    rw [Value.member_of_not_mem b.nodup_written hnone]
    rfl

theorem asString?_optionStr (s : Option String) : (Value.optionStr s).asString? = s := by
  cases s <;> rfl

/-- **A beach is read from what is written for it.** -/
theorem fromValue?_toValue (b : Beach) : decoder.fromValue? b.toValue = some b := by
  have placed : ∀ (name : String) (v : Value), (name, v) ∈ b.written →
      Value.member b.written name = v := fun _ _ => Value.member_of_mem b.nodup_written
  rw [toValue_eq, fromValue?_obj]
  unfold ofMembers ofMember
  rw [asString?_updatedAt,
    placed "id" (.str b.id) (by simp [written]),
    placed "code" (.str b.code) (by simp [written]),
    placed "name" (.str b.name) (by simp [written]),
    placed "status" (.str b.status.name) (by simp [written]),
    placed "latitude" (Degrees.toValue b.latitude) (by simp [written]),
    placed "longitude" (Degrees.toValue b.longitude) (by simp [written]),
    placed "tag" (.optionStr b.tag) (by simp [written]),
    placed "isFavorite" (.bool b.isFavorite) (by simp [written]),
    Crowding.ofValue_name, Degrees.ofValue?_toValue, Degrees.ofValue?_toValue, asString?_optionStr]
  rfl

end Beach

/-! ## Coordinates as doubles -/

/-- The numbers that JSON has: whole numbers of 64 bits, and finite doubles. -/
def Json.Number.Sound : Number → Prop
  | .int i => IsWord i
  | .float f => f.isFinite = true

/-- **Every number of JSON has a finite double.** -/
theorem Json.Number.isFinite_toFloat {n : Number} (h : n.Sound) : n.toFloat.isFinite = true := by
  cases n with
  | int i =>
    obtain ⟨hleast, hgreatest⟩ := h
    exact Decimal.isFinite_ofInt (by omega)
  | float f => exact h

namespace Degrees

/-- A coordinate as a double. One that is missing is no number. -/
def toFloat : Option Degrees → Float
  | some d => d.value
  | none => 0 / 0

/-- The double that a value gives for a coordinate: a number as it is, and a text that holds a finite one;
from anything else comes no number. -/
def doubleOf : Value → Float
  | .num n => n.toFloat
  | .str s =>
    match Decimal.float (Text.trim s).toList with
    | .ok f => if f.isFinite then f else 0 / 0
    | .error _ => 0 / 0
  | _ => 0 / 0

theorem doubleOf_str {s : String} {f : Float} (h : Decimal.float (Text.trim s).toList = .ok f) :
    doubleOf (.str s) = if f.isFinite then f else 0 / 0 := by
  simp only [doubleOf, h]

/-- Only a coordinate that is missing is no number; any other is finite. -/
theorem finite_or_nan (c : Option Degrees) :
    c.isSome = true ∧ (toFloat c).isFinite = true ∨ c = none ∧ (toFloat c).isNaN = true := by
  cases c with
  | some d => exact .inl ⟨rfl, d.finite⟩
  | none => exact .inr ⟨rfl, by decide⟩

/-- A coordinate is written as its double is, and no number is written as null. -/
theorem toValue_eq_float (c : Option Degrees) : toValue c = Value.float (toFloat c) := by
  cases c with
  | some d => exact (if_pos d.finite).symm
  | none =>
    have hnan : ¬ (0 / 0 : Float).isFinite = true := by decide
    exact (if_neg hnan).symm

theorem toFloat_of? (f : Float) : toFloat (of? f) = if f.isFinite = true then f else 0 / 0 := by
  unfold of?
  split <;> rfl

/-- **Reading a coordinate drops no number**: what is kept of a value is the double that it gives. -/
theorem toFloat_ofValue? {w : Value} (h : ∀ n, w = .num n → n.Sound) :
    toFloat (ofValue? w) = doubleOf w := by
  cases w with
  | num n => exact (toFloat_of? n.toFloat).trans (if_pos (Number.isFinite_toFloat (h n rfl)))
  | str s =>
    unfold ofValue? doubleOf
    dsimp only
    cases Decimal.float (Text.trim s).toList with
    | ok f => exact toFloat_of? f
    | error _ => rfl
  | _ => rfl

end Degrees

namespace Beach

/-- What stands for a member of a beach in a value: in an object what stands at its name, and in an array
the item at its place. -/
def standing : Value → String → Value
  | .obj ms => Value.member ms
  | .arr row => itemAt row
  | _ => fun _ => .null

/-- A beach that was read is that of the values that stand for its members. -/
theorem eq_ofMember_standing {v : Value} {b : Beach} (h : decoder.fromValue? v = some b) :
    b = ofMember (standing v) := by
  rw [fromValue?_eq] at h
  cases v with
  | obj ms => exact (Option.some.inj h).symm
  | arr row =>
    by_cases hlength : row.length ≤ members.length
    · exact Option.some.inj (h.symm.trans (if_pos hlength))
    · cases h.symm.trans (if_neg hlength)
  | _ => cases h

/-- **A beach that was read stays as it is.** Whatever the value that was read as a beach, written and read
again it is the same beach. Each of its coordinates is the double that the value gives for it: finite, and
written as that number, or no number, and then it is missing and written as null. -/
theorem reading_settles {v : Value} {b : Beach} (h : decoder.fromValue? v = some b) :
    decoder.fromValue? b.toValue = some b ∧
    ∀ name c, (name, c) ∈ [("latitude", b.latitude), ("longitude", b.longitude)] →
      (c.isSome = true ∧ (Degrees.toFloat c).isFinite = true ∨
        c = none ∧ (Degrees.toFloat c).isNaN = true) ∧
      Degrees.toValue c = Value.float (Degrees.toFloat c) ∧
      ((∀ n, standing v name = .num n → n.Sound) →
        Degrees.toFloat c = Degrees.doubleOf (standing v name)) := by
  refine ⟨fromValue?_toValue b, fun name c hmem => ?_⟩
  refine ⟨Degrees.finite_or_nan c, Degrees.toValue_eq_float c, fun hsound => ?_⟩
  have hread : c = Degrees.ofValue? (standing v name) := by
    rw [eq_ofMember_standing h] at hmem
    simp only [List.mem_cons, List.not_mem_nil, or_false, Prod.mk.injEq] at hmem
    rcases hmem with ⟨rfl, rfl⟩ | ⟨rfl, rfl⟩
    · rfl
    · rfl
  rw [hread]
  exact Degrees.toFloat_ofValue? hsound

/-- Members of which none is written as it is read. -/
def drifted : List (String × Value) :=
  [("id", .int 42), ("code", .bool true), ("name", .null), ("status", .str " OPEN "),
    ("latitude", .str " 35.5 "), ("longitude", .str "inf"), ("updatedAt", .int 0), ("tag", .arr []),
    ("isFavorite", .str "no")]

/-- Read once they are all put right, and read again nothing changes. -/
theorem reading_settles_drifted :
    decoder.fromValue? (.obj drifted) = some (ofMembers drifted) ∧
    decoder.fromValue? (ofMembers drifted).toValue = some (ofMembers drifted) ∧
    (ofMembers drifted).id = "42" ∧ (ofMembers drifted).status = .normal ∧
    Degrees.toFloat (ofMembers drifted).latitude = 35.5 ∧
    (Degrees.toFloat (ofMembers drifted).longitude).isNaN = true := by
  have hread := fromValue?_obj drifted
  obtain ⟨hagain, hplaces⟩ := reading_settles hread
  obtain ⟨-, -, hlatitude⟩ := hplaces "latitude" _ List.mem_cons_self
  obtain ⟨-, -, hlongitude⟩ := hplaces "longitude" _ (List.mem_cons_of_mem _ List.mem_cons_self)
  have placed : ∀ {name : String} {v : Value}, (name, v) ∈ drifted → Value.member drifted name = v :=
    Value.member_of_mem (by decide)
  have hid : Value.member drifted "id" = .int 42 := placed (by simp [drifted])
  have hstatus : Value.member drifted "status" = .str " OPEN " := placed (by simp [drifted])
  have hnorth : standing (.obj drifted) "latitude" = .str " 35.5 " := placed (by simp [drifted])
  have heast : standing (.obj drifted) "longitude" = .str "inf" := placed (by simp [drifted])
  have hnumber : Decimal.float (Text.trim " 35.5 ").toList = .ok 35.5 := by
    rw [show (Text.trim " 35.5 ").toList = ['3', '5', '.', '5'] by decide]
    rfl
  have hword : Decimal.float (Text.trim "inf").toList = .ok (1 / 0) := by
    rw [show (Text.trim "inf").toList = ['i', 'n', 'f'] by decide]
    rfl
  refine ⟨hread, hagain, ?_, ?_, ?_, ?_⟩
  · show (Value.member drifted "id").asText = "42"
    have hwritten : (Value.int 42).normal.write = ['4', '2'] := by decide +kernel
    rw [hid]
    show String.ofList (Value.int 42).normal.write = "42"
    rw [hwritten]
  · show Crowding.ofValue (Value.member drifted "status") = .normal
    rw [hstatus]
    decide
  · rw [hnorth] at hlatitude
    rw [hlatitude nofun, Degrees.doubleOf_str hnumber]
    exact if_pos (by decide)
  · rw [heast] at hlongitude
    rw [hlongitude nofun, Degrees.doubleOf_str hword]
    decide

end Beach

end Shoreline
