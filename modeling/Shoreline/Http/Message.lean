import Shoreline.Failure
import Shoreline.Text.Base64
import Shoreline.Url.Address

/-!
# `Shoreline.Http.Message` — requests and replies

A `Request` is what a caller composes: a method, the text of an address, an access token. `send?`
makes of it what goes over the wire, or finds that nothing can be sent: the address does not belong
to the web, or the token cannot stand in a header. A `Reply` is what comes of a request: an answer,
or the fault for which there is none.

A `Sent` and its `Reply` are one call of the HTTP library. The library opens connections and follows
redirects by itself; what it exchanges with servers within a call is no `Sent` of its own, and the reply
is what the call ends with. It also takes credentials out of the address: they go into an authorization
header, in front of the one for the access token.

## Contents
- `Method`, `Request`, `Sent`, `Sent.authorization`, `TransportFault`.
- `Request.basic`, `Request.bearer`: authorization by credentials, and by an access token;
  `Request.bearer_mem_authorizations_iff`.
- `Request.send?` with `send?_of_parsed` and `send?_eq_ok`.
- `Response`, `Reply`; `Reply.accepted` separates success from refusal.
- `Reply.decoded`, `Reply.acknowledged`: what a caller makes of a reply.
-/

namespace Shoreline.Http

open Text Url Json

/-! ## Requests -/

/-- The methods in use. -/
inductive Method
  | get | post | put | delete
deriving DecidableEq, Repr

/-- The name of a method. -/
def Method.name : Method → String
  | get => "GET"
  | post => "POST"
  | put => "PUT"
  | delete => "DELETE"

/-- A request as it is composed. -/
structure Request where
  method : Method
  /-- The text of the address. -/
  address : String
  /-- Parameters to add to the query. -/
  parameters : List (String × String) := []
  /-- The access token, if the request carries one. -/
  token : Option String := none
  /-- The body, if there is one. -/
  body : Option Value := none

/-- A request as it is sent. The server is always asked for JSON. -/
structure Sent where
  method : Method
  address : Address
  /-- The values of the authorization header, in the order in which they are added. -/
  authorizations : List String
  body : Option Value

/-- The authorization header as one line, if there is such a header. -/
def Sent.authorization (s : Sent) : Option String :=
  if s.authorizations.isEmpty then none else some (", ".intercalate s.authorizations)

/-- One value is the line. -/
theorem Sent.authorization_of_toList {s : Sent} {value : Option String}
    (h : s.authorizations = value.toList) : s.authorization = value := by
  unfold authorization
  rw [h]
  cases value with
  | none => rfl
  | some line => exact congrArg some (String.intercalate_singleton)

/-- Why no answer was had. -/
inductive TransportFault
  /-- The request could not be built; its address, if that is why. -/
  | unsendable (address : Option Address)
  /-- The server was not reached, or broke off. -/
  | unanswered (address : Address)
deriving DecidableEq

/-- What is said about a request without an answer. -/
def TransportFault.message : TransportFault → String
  | unsendable none => "builder error"
  | unsendable (some a) => "builder error for url (" ++ a.text ++ ")"
  | unanswered a => "error sending request for url (" ++ a.text ++ ")"

/-- The content type of every request and of every body that is sent. -/
def jsonType : String := "application/json"

/-- A character that may stand in a header: no control character but the tab. -/
def isHeaderChar (c : Char) : Bool := c = '\t' || (0x20 ≤ c.toNat && c.toNat ≠ 0x7F)

namespace Request

/-- The header that carries an access token. -/
def bearer (token : String) : String := "Bearer " ++ token

/-- The header that carries credentials. A password that is missing is sent as an empty one. -/
def basic (c : Credentials) : String :=
  "Basic " ++ String.ofList (base64 (Text.encode (c.name ++ ":" ++ c.password.getD "")))

theorem isHeaderChar_of_isVisible {c : Char} (h : isVisible c = true) : isHeaderChar c = true := by
  unfold isVisible at h
  unfold isHeaderChar
  simp only [Bool.and_eq_true, Bool.or_eq_true, decide_eq_true_eq] at h ⊢
  exact .inr ⟨by omega, by omega⟩

/-- Whatever the credentials are, the header can be sent. -/
theorem all_isHeaderChar_basic (c : Credentials) : (basic c).toList.all isHeaderChar = true := by
  have hword : ("Basic " : String).toList.all isHeaderChar = true := by decide
  unfold basic
  rw [String.toList_append, List.all_append, Bool.and_eq_true]
  refine ⟨hword, ?_⟩
  rw [String.toList_ofList, List.all_eq_true]
  exact fun d hd => isHeaderChar_of_isVisible (visible_base64 _ d hd)

/-- The values of the authorization header of a request to an address. -/
def authorizations (r : Request) (a : Address) : List String :=
  (a.credentials?.map basic).toList ++ (r.token.map bearer).toList

/-- Two tokens make the same header only if they are the same. -/
theorem bearer_injective {a b : String} (h : bearer a = bearer b) : a = b :=
  String.append_right_inj _ |>.mp h

/-- Credentials never make the header of a token. -/
theorem basic_ne_bearer (c : Credentials) (token : String) : basic c ≠ bearer token := by
  intro h
  unfold basic bearer at h
  have hsecond := congrArg (fun s => s.toList[1]?) h
  simp only [String.toList_append] at hsecond
  exact absurd (Option.some.inj hsecond) (by decide)

/-- **A request carries just its own token.** -/
theorem bearer_mem_authorizations_iff {r : Request} {a : Address} {token : String} :
    bearer token ∈ r.authorizations a ↔ r.token = some token := by
  unfold authorizations
  rw [List.mem_append, Option.mem_toList, Option.mem_toList, Option.map_eq_some_iff,
    Option.map_eq_some_iff]
  constructor
  · rintro (⟨c, -, hsame⟩ | ⟨held, hheld, hsame⟩)
    · exact absurd hsame (basic_ne_bearer c token)
    · rw [← bearer_injective hsame]
      exact hheld
  · exact fun h => .inr ⟨token, h, rfl⟩

/-- The address that a request goes to. -/
def destination (r : Request) (a : Address) : Address :=
  if r.parameters.isEmpty then a.withoutCredentials else a.withoutCredentials.withQuery r.parameters

/-- What goes over the wire. -/
def send? (r : Request) : Except TransportFault Sent :=
  match Address.parse? r.address with
  | none => .error (.unsendable none)
  | some a =>
    let full := r.destination a
    if !a.namesHost then .error (.unsendable a)
    else if !(r.token.getD "").toList.all isHeaderChar then .error (.unsendable none)
    else if !full.isWeb then .error (.unsendable full)
    else .ok ⟨r.method, full, r.authorizations a, r.body⟩

/-- A request to a host of the web is sent, if its token can stand in a header. -/
theorem send?_of_parsed {r : Request} {a : Address} (parsed : Address.parse? r.address = some a)
    (host : a.namesHost = true) (token : (r.token.getD "").toList.all isHeaderChar = true)
    (web : (r.destination a).isWeb = true) :
    r.send? = .ok ⟨r.method, r.destination a, r.authorizations a, r.body⟩ := by
  unfold send?
  rw [parsed]
  simp only [host, token, web, Bool.not_true, Bool.false_eq_true, if_false]

/-- What is sent is what was composed, to the address that its text stands for, and that is one of the
web. -/
theorem send?_eq_ok {r : Request} {sent : Sent} (h : r.send? = .ok sent) :
    ∃ a, (Address.parse? r.address = some a ∧ (r.destination a).isWeb = true) ∧
      sent = ⟨r.method, r.destination a, r.authorizations a, r.body⟩ := by
  unfold send? at h
  split at h
  · cases h
  · next a ha =>
    refine ⟨a, ?_⟩
    dsimp only at h
    generalize r.destination a = full at h ⊢
    -- three more checks may refuse the request; past them it is sent
    split at h
    · cases h
    · split at h
      · cases h
      · split at h
        · cases h
        · next hweb => exact ⟨⟨ha, by simpa using hweb⟩, (Except.ok.inj h).symm⟩

end Request

/-! ## Replies -/

/-- The body of an answer, or the beginning of one that broke off. -/
inductive Body
  | whole (bytes : List UInt8)
  | broken

/-- An answer of the server. -/
structure Response where
  status : Nat
  /-- The header that names the type of the body. -/
  contentType : Option String
  body : Body

/-- What comes of a request. -/
inductive Reply
  | answered (r : Response)
  | failed (fault : TransportFault)

namespace Response

/-- The content type as text; a header with other than visible characters counts as missing. -/
def mediaType (r : Response) : String :=
  (r.contentType.filter fun s =>
    s.toList.all fun c => c = '\t' || (0x20 ≤ c.toNat && c.toNat ≤ 0x7E)).getD ""

/-- The body as text, whatever its bytes are; empty when it broke off. -/
def text (r : Response) : String :=
  match r.body with
  | .whole bytes => decodeLossy bytes
  | .broken => ""

/-- What the body decodes to. -/
def decode? {α : Type} (d : Decoder α) (r : Response) : Option α :=
  match r.body with
  | .whole bytes => d.fromBytes? bytes
  | .broken => none

/-- The refusal that an answer without success is. -/
def refusal (r : Response) : Refusal := Refusal.ofBody r.status r.mediaType r.text

end Response

/-- What is said about a body that makes no sense. -/
def undecodableBody : String := "error decoding response body"

namespace Reply

/-- The answer, if it is a success. -/
def accepted : Reply → Except Failure Response
  | .failed fault => .error (.transport fault.message)
  | .answered r => if isSuccess r.status then .ok r else .error (.refused r.refusal)

/-- The value in the body of a success. -/
def decoded {α : Type} (d : Decoder α) (reply : Reply) : Except Failure α := do
  let r ← reply.accepted
  match r.decode? d with
  | some a => .ok a
  | none => .error (.undecodable ("JSON parse error: " ++ undecodableBody))

/-- Success, whatever the body. -/
def acknowledged (reply : Reply) : Except Failure Unit := do
  let _ ← reply.accepted
  return ()

end Reply

end Shoreline.Http
