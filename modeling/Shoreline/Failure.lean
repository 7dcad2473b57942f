import Shoreline.Http.Status
import Shoreline.Json.Decoder
import Shoreline.Text.Blank
import Shoreline.Text.Search

/-!
# `Shoreline.Failure` — why an operation failed

Every operation that can fail answers with a `Failure`, whose constructors are the causes. A
`Refusal` is an answer of the server that is no success; what it says to the user comes from its
body when that is JSON of one of the two known forms, else from the body's text, else from the
status.

## Contents
- `Refusal`, with `Refusal.ofBody`.
- `StoreFault`: a write that did not happen.
- `Failure` with its `message`, its `fields` and the questions callers ask.
-/

namespace Shoreline

open Text Json

/-- Messages by form field, in the order of the fields' names. -/
abbrev FieldMessages := SortedMap String

/-! ## Refusals -/

/-- An answer of the server that is no success. -/
structure Refusal where
  status : Nat
  /-- What to tell the user. -/
  message : String
  /-- The name of a business error, e.g. `RESERVATION_DUPLICATE`. -/
  code : Option String
  fields : FieldMessages

/-- The members of a refusal's body that matter: those of a problem description and those of a coded
error. -/
structure RefusalBody where
  title : Option String
  detail : Option String
  message : Option String
  code : Option String
  errors : Option (SortedMap Value)
  details : Option (SortedMap Value)

namespace RefusalBody

/-- A body in which every member may be missing but none may have another type. -/
def decoder : Decoder RefusalBody := fun room d => do
  let row ← d.row? ["title", "detail", "message", "code", "errors", "details"] room
  return {
    title := ← row.optional "title" Decoder.text
    detail := ← row.optional "detail" Decoder.text
    message := ← row.optional "message" Decoder.text
    code := ← row.optional "code" Decoder.text
    errors := ← row.optional "errors" (Decoder.map Decoder.value)
    details := ← row.optional "details" (Decoder.map Decoder.value)
  }

/-- The message: the first of detail, title and message that is there, unless it is empty. -/
def said? (b : RefusalBody) : Option String :=
  ((b.detail.or b.title).or b.message).filter (!·.isEmpty)

/-- The messages by field. -/
def fieldMessages (b : RefusalBody) : FieldMessages :=
  match b.errors.or b.details with
  | none => SortedMap.empty
  | some m => SortedMap.ofList (m.entries.map fun e => (e.1, e.2.asLabel))

end RefusalBody

namespace Refusal

/-- Status and reason phrase, for an answer that says nothing itself. -/
def statusLine (status : Nat) : String :=
  String.ofList (Decimal.numeral status) ++
    match Http.reason? status with
    | some r => " " ++ r
    | none => ""

/-- The refusal of a status, a content type and the text of a body. -/
def ofBody (status : Nat) (contentType body : String) : Refusal :=
  let plain : Refusal := ⟨status, statusLine status, none, SortedMap.empty⟩
  if contains contentType "json" then
    match RefusalBody.decoder.fromText? body with
    | none => plain
    | some b => ⟨status, b.said?.getD plain.message, b.code.or b.title, b.fieldMessages⟩
  else if isBlankText body then plain
  else { plain with message := body }

/-- The text of a refusal. -/
def text (r : Refusal) : String :=
  "HTTP " ++ String.ofList (Decimal.numeral r.status) ++ ": " ++ r.message

/-- The access token was rejected. -/
def isUnauthorized (r : Refusal) : Bool := r.status == Http.unauthorized

end Refusal

/-! ## Writes that did not happen -/

/-- Why a value was not stored. -/
inductive StoreFault
  /-- The medium refused. -/
  | write (reason : String)
  /-- The value has no written form. -/
  | encode (key reason : String)
deriving DecidableEq, Repr

/-- What is said about a write that did not happen. -/
def StoreFault.message : StoreFault → String
  | .write reason => "Failed to write storage: " ++ reason
  | .encode key reason => "Failed to encode value for " ++ key ++ ": " ++ reason

/-! ## Failures -/

/-- Why an operation failed. -/
inductive Failure
  /-- A form was not filled in properly; nothing was sent. -/
  | invalid (fields : FieldMessages)
  /-- The server answered, but not with success. -/
  | refused (refusal : Refusal)
  /-- No answer was had from the server. -/
  | transport (detail : String)
  /-- The server's answer made no sense. -/
  | undecodable (detail : String)
  /-- The operation was called off. -/
  | cancelled
  /-- There is no session. -/
  | loginRequired (detail : String)
  /-- A value was not stored. -/
  | notStored (fault : StoreFault)

namespace Failure

/-- The text of a failure. -/
def message : Failure → String
  | invalid fields =>
    "Validation failed: " ++ ", ".intercalate (fields.entries.map fun e => e.1 ++ ": " ++ e.2)
  | refused r => r.text
  | transport detail => "Network error: " ++ detail
  | undecodable detail => "Unexpected response body: " ++ detail
  | cancelled => "Request cancelled"
  | loginRequired detail => "Authentication required: " ++ detail
  | notStored fault => "Storage error: " ++ fault.message

/-- The server rejected the access token. -/
def isUnauthorized : Failure → Bool
  | refused r => r.isUnauthorized
  | _ => false

/-- The operation was called off, which is an outcome rather than a failure. -/
def isCancelled : Failure → Bool
  | cancelled => true
  | _ => false

/-- The messages by field: those of a form, or those of a refusal that has some. -/
def fields? : Failure → Option FieldMessages
  | invalid fields => some fields
  | refused r => if r.fields.isEmpty then none else some r.fields
  | _ => none

end Failure

end Shoreline
