import Shoreline.Store

/-!
# `Shoreline.Proofs.Store.Drive` — how a file is replaced

`Store.write` changes a store in a file in one go. On a drive it takes three steps: the new text is written
into a file beside, that file is moved into the place of the old one, and only then do the entries in
memory change. Each of the first two may fail, and leaves something behind then. A `Drive` takes the steps
one by one, and whoever looks at its store sees what `Store.write` says: all of the change, or none.

What is relied on is in `Writing`: a file beside that is not written in full, or not moved, leaves the
file itself alone.

## Contents
- `Writing`, `Drive`, `Drive.store`, `Drive.opened`.
- `Drive.Step`: the steps, each from the ones before it, up to `put` and `drop`.
- `Drive.write_cases`: what a write leaves; `Drive.Enacts`, `put_enacts`, `drop_enacts`.
-/

namespace Shoreline

open Text

/-- How replacing a file goes. -/
inductive Writing
  | done
  /-- The file beside is not written in full. -/
  | brokenOff (reason : String) (left : Option String)
  /-- The file beside is not moved into its place. -/
  | notMoved (reason : String)
deriving DecidableEq, Repr

/-- Why it fails, if it does. -/
def Writing.fault : Writing → Option String
  | .done => none
  | .brokenOff reason _ => some reason
  | .notMoved reason => some reason

/-- A store in a file, and the drive the file is on. -/
structure Drive where
  /-- The entries in memory. -/
  entries : SortedMap String
  file : Option String
  /-- The file beside it, which is to take its place. -/
  beside : Option String := none

namespace Drive

/-- The entries that a file holds. -/
def contents (file : Option String) : SortedMap String :=
  (file.map Store.entriesOf).getD SortedMap.empty

/-- The store in a file that has just been opened. -/
def opened (file : Option String) : Drive := { entries := contents file, file := file }

/-- The store that is seen. -/
def store (d : Drive) (fault : Option String) : Store :=
  { entries := d.entries, backing := .file d.file, fault := fault }

/-! ## Steps -/

/-- What is done to a drive, step by step. A step that fails leaves what the steps before it did. -/
abbrev Step := ExceptT StoreFault (StateM Drive)

/-- How a step ends on a drive, and what it leaves. -/
def Step.on {α : Type} (step : Step α) (d : Drive) : Except StoreFault α × Drive :=
  StateT.run (ExceptT.run step) d

/-- What is made of the answer of a step leaves the drive alone. -/
theorem Step.on_map {α β : Type} (f : α → β) (step : Step α) (d : Drive) :
    Step.on (f <$> step) d = ((step.on d).1.map f, (step.on d).2) := by
  unfold Step.on
  rw [ExceptT.run_map, StateT.run_map]
  rfl

/-- Write a text into the file beside. -/
def writeBeside (text : String) : Writing → Step Unit
  | .brokenOff reason left => do
    modify fun d => { d with beside := left }
    throw (.write reason)
  | _ => modify fun d => { d with beside := some text }

/-- Move the file beside into its place. -/
def move : Writing → Step Unit
  | .notMoved reason => throw (.write reason)
  | _ => modify fun d => { d with file := d.beside, beside := none }

/-- Write entries into the file. -/
def flush (w : Writing) (entries : SortedMap String) : Step Unit := do
  writeBeside (Store.fileText entries) w
  move w

/-- Replace the entries, once the file holds the new ones. -/
def write (w : Writing) (entries : SortedMap String) : Step Unit := do
  flush w entries
  modify fun d => { d with entries := entries }

/-- Put a text under a key. -/
def put (w : Writing) (key text : String) : Step Unit := do
  write w ((← get).entries.insert key text)

/-- Drop a key. The file is not written for a key that is not there. -/
def drop (w : Writing) (key : String) : Step Unit := do
  let entries := (← get).entries
  if entries.contains key then write w (entries.erase key)

/-! ## What a write leaves -/

/-- A write that succeeds leaves the entries and the file that holds them; one that fails leaves nothing
but a file beside. -/
theorem write_cases (w : Writing) (entries : SortedMap String) (d : Drive) :
    (w.fault = none ∧ (write w entries).on d =
      (.ok (), { entries := entries, file := some (Store.fileText entries) })) ∨
    (∃ reason left, w.fault = some reason ∧ (write w entries).on d =
      (.error (.write reason), { d with beside := left })) := by
  cases w with
  | done => exact .inl ⟨rfl, rfl⟩
  | brokenOff reason left => exact .inr ⟨reason, left, rfl, rfl⟩
  | notMoved reason => exact .inr ⟨reason, some (Store.fileText entries), rfl, rfl⟩

theorem put_on (w : Writing) (key text : String) (d : Drive) :
    (put w key text).on d = (write w (d.entries.insert key text)).on d := rfl

theorem drop_on (w : Writing) (key : String) (d : Drive) : (drop w key).on d =
    if d.entries.contains key then (write w (d.entries.erase key)).on d else (.ok (), d) := by
  show (if d.entries.contains key = true then write w (d.entries.erase key) else pure ()).on d = _
  split
  · rfl
  · rfl

/-! ## The store that is seen -/

/-- A step does to a drive what a change does to its store: it succeeds or fails as the change does, and
the store is seen to be changed in the same way, or not at all. -/
structure Enacts (fault : Option String) (step : Step Unit)
    (change : Store → Except StoreFault Store) : Prop where
  result : ∀ d, (step.on d).1 = (change (d.store fault)).map fun _ => ()
  store : ∀ d, (step.on d).2.store fault = (d.store fault).attempt (change (d.store fault))

/-- A write is seen to happen in one go. -/
theorem write_enacts (w : Writing) (entries : SortedMap String) :
    Enacts w.fault (write w entries) (·.write entries) := by
  have hboth : ∀ d, ((write w entries).on d).1 = ((d.store w.fault).write entries).map (fun _ => ()) ∧
      ((write w entries).on d).2.store w.fault =
        (d.store w.fault).attempt ((d.store w.fault).write entries) := by
    intro d
    rcases write_cases w entries d with ⟨hw, hwrite⟩ | ⟨reason, left, hw, hwrite⟩
    · rw [hwrite, hw]
      exact ⟨rfl, rfl⟩
    · rw [hwrite, hw]
      exact ⟨rfl, rfl⟩
  exact ⟨fun d => (hboth d).1, fun d => (hboth d).2⟩

/-- **Putting a text under a key is `Store.set`.** -/
theorem put_enacts (w : Writing) (key text : String) :
    Enacts w.fault (put w key text) (·.set key text) where
  result d := (write_enacts w (d.entries.insert key text)).result d
  store d := (write_enacts w (d.entries.insert key text)).store d

theorem needsRemoval_store (d : Drive) (fault : Option String) (key : String) :
    (d.store fault).needsRemoval key = d.entries.contains key := rfl

/-- **Dropping a key is `Store.remove`.** -/
theorem drop_enacts (w : Writing) (key : String) :
    Enacts w.fault (drop w key) (·.remove key) where
  result d := by
    rw [drop_on, Store.remove, needsRemoval_store]
    split
    · exact (write_enacts w (d.entries.erase key)).result d
    · rfl
  store d := by
    rw [drop_on, Store.remove, needsRemoval_store]
    split
    · exact (write_enacts w (d.entries.erase key)).store d
    · rfl

end Drive

end Shoreline
