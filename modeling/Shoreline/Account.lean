import Shoreline.Json.Decoder
import Shoreline.Time.Instant

/-!
# `Shoreline.Account` — users and sessions

Logging in grants a session: an access token with a lifetime, and a refresh token that gets a new
access token later. A session is kept as JSON, so its written form and its decoder stand here.

## Contents
- `Profile`, `LoginGrant`, `TokenGrant`, `Session`, with decoders and written forms.
- `Session.expiresAt`, `Session.isExpired`, `Session.renewed`, `Session.isUsable`.
-/

namespace Shoreline

open Json Time

/-! ## Profiles and grants -/

/-- A user as the server describes them. -/
structure Profile where
  id : String
  email : String
  name : String
  role : String
  createdAt : String
  lastLoginAt : Option String
deriving DecidableEq, Repr

namespace Profile

/-- A profile; only the last login may be missing. -/
def decoder : Decoder Profile := fun room d => do
  let row ← d.row? ["id", "email", "name", "role", "createdAt", "lastLoginAt"] room
  return {
    id := ← row.required "id" Decoder.text
    email := ← row.required "email" Decoder.text
    name := ← row.required "name" Decoder.text
    role := ← row.required "role" Decoder.text
    createdAt := ← row.required "createdAt" Decoder.text
    lastLoginAt := ← row.orElse "lastLoginAt" none Decoder.text.nullable
  }

/-- A profile as a JSON value. -/
def toValue (p : Profile) : Value :=
  .obj [("id", .str p.id), ("email", .str p.email), ("name", .str p.name), ("role", .str p.role),
    ("createdAt", .str p.createdAt), ("lastLoginAt", .optionStr p.lastLoginAt)]

end Profile

/-- What the server grants who logs in. -/
structure LoginGrant where
  accessToken : String
  refreshToken : String
  tokenType : String
  /-- The lifetime of the access token in seconds. -/
  expiresIn : Int
  user : Profile

/-- A grant as a record. -/
def LoginGrant.decoder : Decoder LoginGrant := fun room d => do
  let row ← d.row? ["accessToken", "refreshToken", "tokenType", "expiresIn", "user"] room
  return {
    accessToken := ← row.required "accessToken" Decoder.text
    refreshToken := ← row.required "refreshToken" Decoder.text
    tokenType := ← row.required "tokenType" Decoder.text
    expiresIn := ← row.required "expiresIn" Decoder.int64
    user := ← row.required "user" Profile.decoder
  }

/-- What the server grants for a refresh token. -/
structure TokenGrant where
  accessToken : String
  tokenType : String
  expiresIn : Int

/-- A grant as a record. -/
def TokenGrant.decoder : Decoder TokenGrant := fun room d => do
  let row ← d.row? ["accessToken", "tokenType", "expiresIn"] room
  return {
    accessToken := ← row.required "accessToken" Decoder.text
    tokenType := ← row.required "tokenType" Decoder.text
    expiresIn := ← row.required "expiresIn" Decoder.int64
  }

/-! ## Sessions -/

/-- The session of a user who is logged in. -/
structure Session where
  accessToken : String
  refreshToken : String
  tokenType : String
  /-- The lifetime of the access token in seconds. -/
  expiresIn : Int
  user : Profile
  /-- When the access token was granted, in milliseconds from 1970-01-01 00:00 UTC. -/
  issuedAt : Int
deriving DecidableEq, Repr

namespace Session

/-- A session as a record. -/
def decoder : Decoder Session := fun room d => do
  let row ← d.row? ["accessToken", "refreshToken", "tokenType", "expiresIn", "user", "issuedAt"] room
  return {
    accessToken := ← row.required "accessToken" Decoder.text
    refreshToken := ← row.required "refreshToken" Decoder.text
    tokenType := ← row.required "tokenType" Decoder.text
    expiresIn := ← row.required "expiresIn" Decoder.int64
    user := ← row.required "user" Profile.decoder
    issuedAt := ← row.required "issuedAt" Decoder.int64
  }

/-- A session as a JSON value. -/
def toValue (s : Session) : Value :=
  .obj [("accessToken", .str s.accessToken), ("refreshToken", .str s.refreshToken),
    ("tokenType", .str s.tokenType), ("expiresIn", .int s.expiresIn), ("user", s.user.toValue),
    ("issuedAt", .int s.issuedAt)]

/-- The session of a grant made at a time. -/
def ofGrant (g : LoginGrant) (issuedAt : Int) : Session :=
  ⟨g.accessToken, g.refreshToken, g.tokenType, g.expiresIn, g.user, issuedAt⟩

/-- The session with a new access token. The refresh token and the user stay. -/
def renewed (s : Session) (g : TokenGrant) (issuedAt : Int) : Session :=
  { s with
    accessToken := g.accessToken, tokenType := g.tokenType, expiresIn := g.expiresIn,
    issuedAt := issuedAt }

/-- When the access token expires. A time that cannot be represented counts as the least of all, so
such a session is always expired. -/
def expiresAt (s : Session) : Instant :=
  (Instant.ofMillis? (s.issuedAt + s.expiresIn * 1000)).getD Instant.least

/-- Whether the access token has expired, or will within some seconds. -/
def isExpired (s : Session) (now : Instant) (buffer : Int) : Bool :=
  s.expiresAt.atMost (now.addSeconds buffer)

/-- The seconds before its expiry from which a session counts as expired. -/
def expiryBuffer : Int := 30

/-- A session that was kept is only good with a token and a user. -/
def isUsable (s : Session) : Bool := !s.accessToken.isEmpty && !s.user.id.isEmpty

end Session

end Shoreline
