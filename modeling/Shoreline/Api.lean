import Shoreline.Account
import Shoreline.Account.Form
import Shoreline.Beach
import Shoreline.Decimal.Layout
import Shoreline.Http.Message
import Shoreline.Reservation
import Shoreline.Url.Percent

/-!
# `Shoreline.Api` — the resources of the server

For each thing that the server can be asked there is the request and what is made of the reply. Ids
stand in addresses as one segment each, percent-encoded.

## Contents
- Requests about accounts, beaches, favorites, reservations and notifications.
- Readers of replies: `Reply.beaches`, `Reply.beachByCode`; the others are `Reply.decoded` with the
  decoder of a record, or `Reply.acknowledged`.
-/

namespace Shoreline.Api

open Json Http

/-- Where the server is. -/
abbrev Base := String

/-- The segment of an address that an id makes. -/
def segment (id : String) : String := Url.segment id

/-! ## Accounts -/

/-- Log in. -/
def logIn (base : Base) (f : LoginForm) : Request where
  method := .post
  address := base ++ "/api/auth/login"
  body := some (.obj [("email", .str f.email), ("password", .str f.password)])

/-- Create an account. The server sends a verification mail. -/
def signUp (base : Base) (f : SignUpForm) : Request where
  method := .post
  address := base ++ "/api/auth/signup"
  body := some (.obj [("email", .str f.email), ("password", .str f.password), ("name", .str f.name)])

/-- The body that carries a refresh token. -/
def refreshBody (refreshToken : String) : Value := .obj [("refreshToken", .str refreshToken)]

/-- Get a new access token. -/
def refresh (base : Base) (refreshToken : String) : Request where
  method := .post
  address := base ++ "/api/auth/refresh"
  body := some (refreshBody refreshToken)

/-- Revoke a refresh token. -/
def logOut (base : Base) (refreshToken : String) : Request where
  method := .post
  address := base ++ "/api/auth/logout"
  body := some (refreshBody refreshToken)

/-- The profile of the user. -/
def currentUser (base : Base) (token : String) : Request where
  method := .get
  address := base ++ "/api/auth/me"
  token := some token

/-- Send the verification mail again. -/
def resendVerification (base : Base) (email : String) : Request where
  method := .post
  address := base ++ "/api/auth/resend-verification"
  body := some (.obj [("email", .str email)])

/-! ## Beaches -/

/-- The beaches around a position. With a token the server marks the favorites. -/
def nearby (base : Base) (here : Position) (radius : Float) (token : Option String) : Request where
  method := .get
  address := base ++ "/api/beaches"
  parameters := [("lat", Decimal.plainFloat here.lat), ("lon", Decimal.plainFloat here.lng),
    ("radiusKm", Decimal.plainFloat radius)]
  token := token

/-- The beach with a code. -/
def beachByCode (base : Base) (code : String) : Request where
  method := .get
  address := base ++ "/api/beaches/" ++ segment code

/-! ## Favorites -/

/-- The favorites of the user. -/
def favorites (base : Base) (token : String) : Request where
  method := .get
  address := base ++ "/api/favorites"
  token := some token

/-- A resource of one favorite. -/
def favorite (base : Base) (token id : String) (method : Method) (rest : String) : Request where
  method := method
  address := base ++ "/api/favorites/" ++ segment id ++ rest
  token := some token

/-- Make a beach a favorite. -/
def addFavorite (base : Base) (token id : String) : Request := favorite base token id .post ""

/-- Make a beach no favorite. -/
def removeFavorite (base : Base) (token id : String) : Request := favorite base token id .delete ""

/-- Make a beach a favorite if it is none, and the other way round. -/
def toggleFavorite (base : Base) (token id : String) : Request := favorite base token id .put "/toggle"

/-- Whether a beach is a favorite. -/
def checkFavorite (base : Base) (token id : String) : Request := favorite base token id .get "/check"

/-! ## Reservations -/

/-- What is asked for: the time in UTC, and the event that the visit is for. -/
structure Wish where
  reservedAt : String
  eventId : Option String
deriving DecidableEq, Repr

/-- A wish as a JSON value; without an event it has one member. -/
def Wish.toValue (w : Wish) : Value :=
  .obj (("reservedAtUtc", .str w.reservedAt) ::
    (match w.eventId with
      | some id => [("eventId", .str id)]
      | none => []))

/-- Reserve a visit of a beach. -/
def reserve (base : Base) (token beachId : String) (w : Wish) : Request where
  method := .post
  address := base ++ "/api/beaches/" ++ segment beachId ++ "/reservations"
  token := some token
  body := some w.toValue

/-- Cancel a reservation. -/
def cancelReservation (base : Base) (token beachId reservationId : String) : Request where
  method := .delete
  address := base ++ "/api/beaches/" ++ segment beachId ++ "/reservations/" ++ segment reservationId
  token := some token

/-- The reservations of the user. -/
def reservations (base : Base) (token : String) : Request where
  method := .get
  address := base ++ "/api/beaches/reservations"
  token := some token

/-! ## Notifications -/

/-- Have notifications sent to a device. -/
def registerDevice (base : Base) (token device : String) : Request where
  method := .post
  address := base ++ "/api/notifications/fcm-token"
  token := some token
  body := some (.obj [("fcmToken", .str device)])

/-- Turn notifications on or off. -/
def setNotifications (base : Base) (token : String) (enabled : Bool) : Request where
  method := .put
  address := base ++ "/api/notifications/settings"
  token := some token
  body := some (.obj [("enabled", .bool enabled)])

/-! ## Replies -/

/-- What the server says about a beach that was made a favorite or none. -/
structure FavoriteMark where
  message : String
  isFavorite : Bool
deriving DecidableEq, Repr

/-- A mark as a record; the message may be missing. -/
def FavoriteMark.decoder : Decoder FavoriteMark := fun room d => do
  let row ← d.row? ["message", "isFavorite"] room
  return ⟨← row.orElse "message" "" Decoder.text, ← row.required "isFavorite" Decoder.flag⟩

/-- Whether a beach is a favorite, as a record. -/
def favoriteCheck : Decoder Bool := fun room d => do
  let row ← d.row? ["isFavorite"] room
  row.required "isFavorite" Decoder.flag

/-- The beaches of a reply. -/
def beaches (reply : Reply) : Except Failure (List Beach) :=
  (reply.decoded Decoder.value).map Beach.listOf

/-- The beach of a reply; none when the server knows no such beach. A beach without a code gets the
one that was asked for. -/
def beach (code : String) (reply : Reply) : Except Failure (Option Beach) :=
  match reply with
  | .answered r =>
    if r.status = notFound then .ok none
    else do
      let r ← reply.accepted
      match r.decode? Beach.decoder with
      | some b => .ok (some (if b.code.isEmpty then { b with code := code } else b))
      | none => .error (.undecodable undecodableBody)
  | .failed fault => .error (.transport fault.message)

end Shoreline.Api
