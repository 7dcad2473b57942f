import Shoreline.Failure

/-!
# `Shoreline.Store` — texts kept under keys

A store keeps a text under each of its keys, in memory or in a file. The file holds all of them as
one JSON object and is written anew with every change. Writes may fail; a write that fails changes
neither the entries nor the file.

## Contents
- `FileText`, `Backing`, `Store`.
- `Store.inMemory`, `Store.open`: new stores; `Store.reopen`.
- `Store.get?`, `Store.set`, `Store.remove`, with their equations.
-/

namespace Shoreline

open Text Json

/-- What is found where a file should be. -/
inductive FileText
  /-- No such file. -/
  | absent
  | found (text : String)
  /-- Something that cannot be read. -/
  | unreadable (reason : String)
deriving DecidableEq, Repr

/-- Where entries are kept. -/
inductive Backing
  | memory
  /-- A file, with its text if it is there. -/
  | file (text : Option String)
deriving DecidableEq, Repr

/-- Texts kept under keys. -/
structure Store where
  entries : SortedMap String
  backing : Backing := .memory
  /-- Why writes fail at present, if they do. -/
  fault : Option String := none

namespace Store

/-! ## The text of a file -/

/-- The text of a file that holds some entries: an object with a member for each. -/
def fileText (entries : SortedMap String) : String :=
  (Value.obj (entries.entries.map fun e => (e.1, .str e.2))).pretty

/-- The entries that a text holds; none if it is not an object of texts. -/
def entriesOf (text : String) : SortedMap String :=
  ((Decoder.map Decoder.text).fromText? text).getD SortedMap.empty

/-! ## New stores -/

/-- A store in memory. -/
def inMemory (entries : SortedMap String) : Store := { entries := entries }

/-- A store in a file. A file that is not there, or makes no sense, is a store without entries; one
that cannot be read is an error. -/
def «open» : FileText → Except StoreFault Store
  | .absent => .ok { entries := SortedMap.empty, backing := .file none }
  | .found text => .ok { entries := entriesOf text, backing := .file (some text) }
  | .unreadable reason => .error (.write reason)

/-- The text of the file behind a store, if there is one. -/
def file? (s : Store) : Option String :=
  match s.backing with
  | .memory => none
  | .file text => text

/-- The store as it is when its file is opened again. A store in memory stays as it is. -/
def reopen (s : Store) : Store :=
  match s.backing with
  | .memory => s
  | .file text => { s with entries := (text.map entriesOf).getD SortedMap.empty }

/-- The store after something else has changed its file. -/
def withFile (s : Store) (text : Option String) : Store := { s with backing := .file text }

/-! ## Reading and writing -/

/-- The text under a key. -/
def get? (s : Store) (key : String) : Option String := s.entries.get? key

/-- Replace the entries and write them, unless writes fail. -/
def write (s : Store) (entries : SortedMap String) : Except StoreFault Store :=
  match s.fault with
  | some reason => .error (.write reason)
  | none =>
    .ok { s with
      entries := entries
      backing :=
        match s.backing with
        | .memory => .memory
        | .file _ => .file (some (fileText entries)) }

/-- Put a text under a key. -/
def set (s : Store) (key text : String) : Except StoreFault Store := s.write (s.entries.insert key text)

/-- Whether removing a key would touch anything. A store in memory does not look first. -/
def needsRemoval (s : Store) (key : String) : Bool := s.backing == .memory || s.entries.contains key

/-- Drop a key. A file is not written for a key that is not there. -/
def remove (s : Store) (key : String) : Except StoreFault Store :=
  if s.needsRemoval key then s.write (s.entries.erase key) else .ok s

/-- The store after a change that may have failed and has no effect then. -/
def attempt (s : Store) (result : Except StoreFault Store) : Store :=
  match result with
  | .ok changed => changed
  | .error _ => s

theorem write_eq_ok {s t : Store} {entries : SortedMap String} (h : s.write entries = .ok t) :
    t.entries = entries ∧ t.fault = s.fault := by
  unfold write at h
  split at h
  · cases h
  · next hf => cases h; exact ⟨rfl, hf.symm ▸ rfl⟩

/-- **Reading after a write.** -/
theorem get?_set {s t : Store} {key text : String} (h : s.set key text = .ok t) (k : String) :
    t.get? k = if k = key then some text else s.get? k := by
  unfold get?
  rw [(write_eq_ok h).1, SortedMap.get?_insert]

/-- **Reading after a removal.** -/
theorem get?_remove {s t : Store} {key : String} (h : s.remove key = .ok t) (k : String) :
    t.get? k = if k = key then none else s.get? k := by
  unfold remove at h
  split at h
  · unfold get?
    rw [(write_eq_ok h).1, SortedMap.get?_erase]
  · next hn =>
    cases h
    have hk : s.entries.get? key = none := by
      simp only [needsRemoval, SortedMap.contains, Bool.or_eq_true, not_or] at hn
      simpa using hn.2
    unfold get?
    split
    · next e => rw [e, hk]
    · rfl

end Store

end Shoreline
