import Shoreline.Account
import Shoreline.Reservation
import Shoreline.Store

/-!
# `Shoreline.Store.Record` — what the client keeps

The client keeps four things under keys of their own: the session, the favorites of a user who is
not logged in, the reserved visits and the theme; and for each e-mail address the time of the last
verification mail. Reading never fails: a text that makes no sense counts as missing.

## Contents
- `Key`: the keys.
- `Theme`.
- `Store.loadSession`, `Store.saveSession` and their like for favorites, visits and the theme.
-/

namespace Shoreline

open Text Json

/-! ## Keys -/

namespace Key

/-- The session. -/
def session : String := "beachcheck_auth"

/-- The favorites of a user who is not logged in. -/
def favorites : String := "beachcheck_favorites"

/-- The reserved visits in the order of their creation. -/
def visits : String := "beachcheck_saved_dates"

/-- The theme. -/
def theme : String := "beachcheck_theme"

/-- The time of the last verification mail to an address. -/
def resend (email : String) : String := "email_resend_" ++ email

end Key

/-! ## Themes -/

/-- How the client looks. -/
inductive Theme
  | light | dark
  /-- As the system around it. -/
  | system
deriving DecidableEq, Repr, Inhabited

namespace Theme

/-- The name of a theme. -/
def name : Theme → String
  | light => "light"
  | dark => "dark"
  | system => "system"

/-- The theme of a name. -/
def named? : String → Option Theme
  | "light" => some light
  | "dark" => some dark
  | "system" => some system
  | _ => none

/-- A theme as a record. -/
def decoder : Decoder Theme := Decoder.oneOf named?

/-- A theme as a JSON value. -/
def toValue (t : Theme) : Value := .str t.name

theorem named?_name (t : Theme) : named? t.name = some t := by cases t <;> rfl

end Theme

/-! ## Loading and saving -/

namespace Store

/-- What the text under a key decodes to. -/
def load? {α : Type} (s : Store) (key : String) (d : Decoder α) : Option α :=
  (s.get? key).bind d.fromText?

/-- Put a value under a key. -/
def save (s : Store) (key : String) (v : Value) : Except StoreFault Store := s.set key v.compact

/-- The session, if there is one that can be used. -/
def loadSession (s : Store) : Option Session :=
  (s.load? Key.session Session.decoder).filter Session.isUsable

/-- Keep a session. -/
def saveSession (s : Store) (session : Session) : Except StoreFault Store :=
  s.save Key.session session.toValue

/-- Forget the session. -/
def clearSession (s : Store) : Except StoreFault Store := s.remove Key.session

/-- The favorites. Items that are no texts are taken as written; anything else than an array holds no
favorites. -/
def loadFavorites (s : Store) : List String :=
  match s.load? Key.favorites Decoder.value with
  | some (.arr items) => items.map Value.asLabel
  | _ => []

/-- Keep favorites. -/
def saveFavorites (s : Store) (ids : List String) : Except StoreFault Store :=
  s.save Key.favorites (.list .str ids)

/-- The reserved visits. A list with a visit that makes no sense counts as missing. -/
def loadVisits (s : Store) : List Visit :=
  (s.load? Key.visits (Decoder.list Visit.decoder)).getD []

/-- Keep visits. -/
def saveVisits (s : Store) (visits : List Visit) : Except StoreFault Store :=
  s.save Key.visits (.list Visit.toValue visits)

/-- The theme. Its name may stand in quotes or not; a name that is none counts as missing. -/
def loadTheme (s : Store) : Theme :=
  ((s.get? Key.theme).bind fun raw => Theme.named? (trimWith (· = '"') (trim raw))).getD .light

/-- Keep a theme. -/
def saveTheme (s : Store) (t : Theme) : Except StoreFault Store := s.save Key.theme t.toValue

/-! ## The list of visits -/

/-- The reserved visits of a month. -/
def visitsIn (s : Store) (year : Int) (month : Nat) : List Visit :=
  s.loadVisits.filter (·.isIn year month)

/-- Add a visit at the end of the list. -/
def addVisit (s : Store) (v : Visit) : Except StoreFault Store := s.saveVisits (s.loadVisits ++ [v])

/-- Drop the visits with an id, and tell whether there were any. Nothing is written if not. -/
def removeVisit (s : Store) (id : String) : Except StoreFault (Store × Bool) :=
  let visits := s.loadVisits
  let kept := visits.filter (·.id != id)
  if kept.length = visits.length then .ok (s, false)
  else (s.saveVisits kept).map (·, true)

end Store

end Shoreline
