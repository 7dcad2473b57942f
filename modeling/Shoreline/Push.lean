import Shoreline.Json.Decoder
import Shoreline.Text.Blank
import Shoreline.Text.Search

/-!
# `Shoreline.Push` — notifications in the background

A message that arrives in the background is shown with whatever it says; what is missing has a
default. A click on it goes to a window of the client, or opens one.

## Contents
- `Banner`: a notification as it is shown; `Banner.ofPayload`.
- `ClickTarget`, `resolveClick`.
-/

namespace Shoreline.Push

open Text Json

/-! ## Showing a message -/

/-- A notification as it is shown. -/
structure Banner where
  title : String
  body : String
  /-- What the message carries for the client. -/
  data : Option Value

namespace Banner

/-- The title of a message that has none. -/
def defaultTitle : String := "새 알림"

/-- A newer notification with this tag takes the place of an older one. -/
def tag : String := "beach-notification"

/-- The picture beside the text. -/
def icon : String := "/assets/icons/icon-192x192.png"

/-- The picture in the status bar. -/
def badge : String := "/assets/icons/badge-72x72.png"

/-- Notifications stay until they are dismissed. -/
def staysOpen : Bool := true

end Banner

/-- The text of a message. -/
structure Wording where
  title : Option String := none
  body : Option String := none

/-- The text of a message as a record. -/
def Wording.decoder : Decoder Wording := fun room d => do
  let row ← d.row? ["title", "body"] room
  return ⟨← row.orElse "title" none Decoder.text.nullable,
    ← row.orElse "body" none Decoder.text.nullable⟩

/-- A message: its text, and what it carries. -/
structure Payload where
  wording : Option Wording := none
  data : Option Value := none

/-- A message as a record. -/
def Payload.decoder : Decoder Payload := fun room d => do
  let row ← d.row? ["notification", "data"] room
  return ⟨← row.orElse "notification" none Wording.decoder.nullable,
    ← row.orElse "data" none Decoder.value.nullable⟩

/-- The notification for a message. A message that is no record is shown with the defaults alone. -/
def Banner.ofPayload (payload : Value) : Banner :=
  let message := (Payload.decoder.fromValue? payload).getD {}
  let wording := message.wording.getD {}
  ⟨(wording.title.filter (!·.isEmpty)).getD Banner.defaultTitle, wording.body.getD "", message.data⟩

/-! ## Clicks -/

/-- Where a click goes. -/
inductive ClickTarget
  /-- To a window that is open, by its place in the list of windows. -/
  | focus (index : Nat)
  /-- To a new window at an address. -/
  | openWindow (address : String)
deriving DecidableEq, Repr

/-- The first window whose address begins with the origin, or a new window at the origin's root. -/
def resolveClick (origin : String) (windows : List String) : ClickTarget :=
  let origin := trimEndWith (· = '/') origin
  match windows.findIdx? (startsWith · origin) with
  | some index => .focus index
  | none => .openWindow (origin ++ "/")

end Shoreline.Push
