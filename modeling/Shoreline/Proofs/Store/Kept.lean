import Shoreline.Proofs.Store.Durable
import Shoreline.Proofs.Store.ReadBack
import Shoreline.Proofs.Store.Sessions
import Shoreline.Proofs.Store.Stamp
import Shoreline.Proofs.Store.Visits

/-!
# `Shoreline.Proofs.Store.Kept` — a value that is saved is the one thing that changes

The loads of a store are a view of it, `Store.kept`: a session, favorites, visits, a theme, and for each
address the time of the last mail. The four saves write texts under keys, but through that view each of them
replaces one part and leaves the rest. So what is loaded is what was saved last, whatever characters stand
in it, also when the store is opened again in between.

That the parts do not touch each other is a matter of the keys alone (`Store.ChangedAt.kept`); that a part is
read back is a matter of its text alone, and is said in the module of the part.

## Contents
- `Kept`, `Store.kept`; `Saved` with `save`, `into`, `Storable`.
- `Store.loadTheme_saveTheme`, `Store.ChangedAt.kept`, `Store.entries_reopen`.
- `Saved.saved_values_read_back`, with a session and visits full of odd characters.
-/

namespace Shoreline

open Text Json Time

/-! ## The view and the values -/

/-- All that a store keeps, as it is loaded. -/
structure Kept where
  session : Option Session
  favorites : List String
  visits : List Visit
  theme : Theme
  /-- When the last mail was sent to an address, if that is known. -/
  mailed : String → Option Int

/-- What the loads of a store return. -/
def Store.kept (s : Store) : Kept :=
  ⟨s.loadSession, s.loadFavorites, s.loadVisits, s.loadTheme, s.resendStamp?⟩

/-- A value that can be saved. -/
inductive Saved
  | session (s : Session)
  | favorites (ids : List String)
  | visits (l : List Visit)
  | theme (t : Theme)

namespace Saved

/-- Save the value. -/
def save (s : Store) : Saved → Except StoreFault Store
  | session x => s.saveSession x
  | favorites ids => s.saveFavorites ids
  | visits l => s.saveVisits l
  | theme x => s.saveTheme x

/-- The value in its place among all that is kept. -/
def into (k : Kept) : Saved → Kept
  | session x => { k with session := some x }
  | favorites ids => { k with favorites := ids }
  | visits l => { k with visits := l }
  | theme x => { k with theme := x }

/-- A session has a token and a user, and its numbers have 64 bits; the hour of a visit has 32, and it was
made at an instant of the calendar. Favorites and themes are free. -/
def Storable : Saved → Prop
  | session x => x.Storable ∧ x.isUsable = true
  | visits l => ∀ v ∈ l, v.Storable
  | _ => True

/-- The key under which the value stands. -/
def key : Saved → String
  | session _ => Key.session
  | favorites _ => Key.favorites
  | visits _ => Key.visits
  | theme _ => Key.theme

/-- The value as it is written. -/
def value : Saved → Value
  | session x => x.toValue
  | favorites ids => .list .str ids
  | visits l => .list Visit.toValue l
  | theme x => x.toValue

/-- **The four saves differ in key and value only.** -/
theorem save_eq (v : Saved) (s : Store) : v.save s = s.save v.key v.value := by
  cases v <;> rfl

end Saved

namespace Store

/-! ## Themes -/

theorem loadTheme_congr {s t : Store} (h : t.get? Key.theme = s.get? Key.theme) :
    t.loadTheme = s.loadTheme := by
  unfold loadTheme
  rw [h]

/-- The name of a theme is found between the quotes that JSON puts around it. -/
theorem named?_compact (t : Theme) :
    Theme.named? (trimWith (· = '"') (trim t.toValue.compact)) = some t := by
  cases t <;> decide +kernel

/-- **A theme that was saved is loaded.** -/
theorem loadTheme_saveTheme {s t : Store} {theme : Theme} (h : s.saveTheme theme = .ok t) :
    t.loadTheme = theme := by
  have hkept : t.get? Key.theme = some theme.toValue.compact := by
    rw [get?_set h, if_pos rfl]
  unfold loadTheme
  rw [hkept, Option.bind_some, named?_compact]
  rfl

/-! ## What a change leaves -/

theorem resendStamp?_congr {s t : Store} {address : String}
    (h : t.get? (Key.resend address) = s.get? (Key.resend address)) :
    t.resendStamp? address = s.resendStamp? address := by
  unfold resendStamp?
  rw [h]

/-- **A change under one key leaves the parts that stand under others.** -/
theorem ChangedAt.kept {key : String} {s t : Store} (h : ChangedAt (some key) s t) :
    (key ≠ Key.session → t.kept.session = s.kept.session) ∧
    (key ≠ Key.favorites → t.kept.favorites = s.kept.favorites) ∧
    (key ≠ Key.visits → t.kept.visits = s.kept.visits) ∧
    (key ≠ Key.theme → t.kept.theme = s.kept.theme) ∧
    ((∀ email, Key.resend email ≠ key) → t.kept.mailed = s.kept.mailed) := by
  have hsame : ∀ k, key ≠ k → t.get? k = s.get? k := fun k hk => h.get? k fun he =>
    hk (Option.some.inj he)
  refine ⟨fun hk => loadSession_congr (hsame _ hk), fun hk => loadFavorites_congr (hsame _ hk),
    fun hk => loadVisits_congr (hsame _ hk), fun hk => loadTheme_congr (hsame _ hk), fun hk => ?_⟩
  funext email
  exact resendStamp?_congr (hsame _ (hk email).symm)

/-- A write succeeds only if writes do. -/
theorem sound_of_set {s t : Store} {key text : String} (h : s.set key text = .ok t) :
    s.fault = none := by
  unfold set write at h
  split at h
  · cases h
  · assumption

/-- What was written is found when the store is opened again. -/
theorem entries_reopen {s t : Store} {entries : SortedMap String} (h : s.write entries = .ok t) :
    t.reopen.entries = t.entries := by
  unfold write at h
  split at h
  · cases h
  · cases h
    unfold reopen
    cases s.backing with
    | memory => rfl
    | file text =>
      show entriesOf (fileText entries) = entries
      unfold entriesOf
      rw [fromText?_fileText]
      rfl

/-- What is kept depends on the entries alone. -/
theorem kept_congr {s t : Store} (h : t.entries = s.entries) : t.kept = s.kept := by
  have hget : ∀ k, t.get? k = s.get? k := fun k => congrArg (·.get? k) h
  have hmailed : t.resendStamp? = s.resendStamp? := by
    funext email
    exact resendStamp?_congr (hget _)
  unfold kept
  rw [loadSession_congr (hget _), loadFavorites_congr (hget _), loadVisits_congr (hget _),
    loadTheme_congr (hget _), hmailed]

end Store

namespace Saved

/-! ## Saving -/

/-- **What was saved is in its place.** -/
theorem into_kept {v : Saved} (storable : v.Storable) {s t : Store} (h : v.save s = .ok t) :
    v.into t.kept = t.kept := by
  have sound : s.fault = none := Store.sound_of_set ((v.save_eq s).symm.trans h)
  have hattempt : s.attempt (v.save s) = t := by
    rw [h]
    rfl
  cases v with
  | session x =>
    have hread := Store.loadSession_saveSession sound storable.1
    rw [Option.filter_some, if_pos storable.2] at hread
    have hloaded : t.kept.session = some x := (congrArg Store.loadSession hattempt).symm.trans hread
    show { t.kept with session := some x } = t.kept
    rw [← hloaded]
  | favorites ids =>
    have hread := Store.loadFavorites_saveFavorites sound ids
    have hloaded : t.kept.favorites = ids := (congrArg Store.loadFavorites hattempt).symm.trans hread
    show { t.kept with favorites := ids } = t.kept
    rw [← hloaded]
  | visits l =>
    have hloaded : t.kept.visits = l := Store.loadVisits_of_saved h storable
    show { t.kept with visits := l } = t.kept
    rw [← hloaded]
  | theme x =>
    have hloaded : t.kept.theme = x := Store.loadTheme_saveTheme h
    show { t.kept with theme := x } = t.kept
    rw [← hloaded]

/-- **All else is where it was.** -/
theorem into_of_save {v : Saved} {s t : Store} (h : v.save s = .ok t) :
    v.into t.kept = v.into s.kept := by
  cases v with
  | session x =>
    have hchanged : Store.ChangedAt (some Key.session) s t := Store.changedAt_set h
    obtain ⟨-, hfavorites, hvisits, htheme, hmailed⟩ := hchanged.kept
    unfold into
    rw [hfavorites (by decide), hvisits (by decide), htheme (by decide),
      hmailed (Key.resend_ne (by decide))]
  | favorites ids =>
    have hchanged : Store.ChangedAt (some Key.favorites) s t := Store.changedAt_set h
    obtain ⟨hsession, -, hvisits, htheme, hmailed⟩ := hchanged.kept
    unfold into
    rw [hsession (by decide), hvisits (by decide), htheme (by decide),
      hmailed (Key.resend_ne (by decide))]
  | visits l =>
    have hchanged : Store.ChangedAt (some Key.visits) s t := Store.changedAt_set h
    obtain ⟨hsession, hfavorites, -, htheme, hmailed⟩ := hchanged.kept
    unfold into
    rw [hsession (by decide), hfavorites (by decide), htheme (by decide),
      hmailed (Key.resend_ne (by decide))]
  | theme x =>
    have hchanged : Store.ChangedAt (some Key.theme) s t := Store.changedAt_set h
    obtain ⟨hsession, hfavorites, hvisits, -, hmailed⟩ := hchanged.kept
    unfold into
    rw [hsession (by decide), hfavorites (by decide), hvisits (by decide),
      hmailed (Key.resend_ne (by decide))]

/-- **A value that is saved is the one thing that changes.** Whatever the store holds, the save succeeds if
writes do, and then the loads return the value in its place, character by character, and everywhere else,
the times of the mails included, what they returned before. They return the same when the store is opened
again. -/
theorem saved_values_read_back (v : Saved) (storable : v.Storable) (s : Store) :
    (s.fault = none → ∃ t, v.save s = .ok t) ∧
    ∀ t, v.save s = .ok t → t.kept = v.into s.kept ∧ t.reopen.kept = t.kept := by
  rw [v.save_eq s]
  refine ⟨fun sound => Store.save_ok sound v.key v.value, fun t h => ⟨?_, ?_⟩⟩
  · have hsave : v.save s = .ok t := (v.save_eq s).trans h
    rw [← into_kept storable hsave, into_of_save hsave]
  · exact Store.kept_congr (Store.entries_reopen h)

/-- A text of quotes, backslashes, control characters and characters outside ASCII. -/
def oddText : String := "\"\\\n\x00\x1f해🌊"

/-- A session of such texts, with the least and the greatest number of 64 bits. -/
def oddSession : Session where
  accessToken := oddText
  refreshToken := ""
  tokenType := oddText
  expiresIn := -0x8000000000000000
  user := ⟨oddText, oddText, "", oddText, oddText, some oddText⟩
  issuedAt := 0x7fffffffffffffff

/-- A visit on the first of all dates, written down at the end of the last. -/
def oddVisit : Visit where
  id := oddText
  reservationId := none
  beachId := some oddText
  beachName := oddText
  date := ⟨minYear, 1, 1, by decide, by decide⟩
  hour := 0xffffffff
  status := .busy
  createdAt := ⟨Instant.maxSeconds, 999999999⟩

/-- In an empty store this session is saved, and then a list with this visit: both are loaded, and nothing
else. -/
theorem saved_values_read_back_odd :
    (session oddSession).Storable ∧ (visits [oddVisit]).Storable ∧
    ∃ t u, (session oddSession).save (.inMemory .empty) = .ok t ∧ (visits [oddVisit]).save t = .ok u ∧
      u.kept = ⟨some oddSession, [], [oddVisit], .light, fun _ => none⟩ ∧ u.reopen.kept = u.kept := by
  have hexpires : IsInt64 oddSession.expiresIn := by
    unfold IsInt64
    decide
  have hissued : IsInt64 oddSession.issuedAt := by
    unfold IsInt64
    decide
  have hsession : (session oddSession).Storable := ⟨⟨hexpires, hissued⟩, by decide⟩
  have hvisits : (visits [oddVisit]).Storable := by
    intro v hv
    rw [List.mem_singleton.mp hv]
    exact ⟨by decide, by decide +kernel, by decide, by decide⟩
  obtain ⟨hsaves, hkept⟩ := saved_values_read_back (session oddSession) hsession (.inMemory .empty)
  obtain ⟨t, ht⟩ := hsaves rfl
  have hchanged : Store.ChangedAt (some Key.session) (.inMemory .empty) t := Store.changedAt_set ht
  obtain ⟨hsaves', hkept'⟩ := saved_values_read_back (visits [oddVisit]) hvisits t
  obtain ⟨u, hu⟩ := hsaves' hchanged.fault
  obtain ⟨hlast, hreopened⟩ := hkept' u hu
  refine ⟨hsession, hvisits, t, u, ht, hu, ?_, hreopened⟩
  rw [hlast, (hkept t ht).1]
  rfl

end Saved

end Shoreline
