import Mathlib.Data.List.Forall2
import Shoreline.Calendar.Booking
import Shoreline.Proofs.Http.Reply
import Shoreline.Proofs.Url.Segment
import Shoreline.Proofs.Url.Web

/-!
# `Shoreline.Proofs.Api.Resources` — which resource a request is about

Every request is for a resource whose path is made of fixed names and of ids. An id may be any text, and it
is percent-encoded, so that nothing in it ends its segment. But a request goes to the normal form of its
address, in which dot segments are resolved, and the encoding leaves dots as they are: so the ids `.` and
`..`, and only these, take a request to another resource.

## Contents
- `Part`, `Errand` with `request`, `parts`, `texts`, `ids`; `parts_eq_cons`, `address_request`.
- `routes` and `route_mem_routes`; `Part.Sound`, `sound_parts`; `Part.undotted_written`.
- `resolve_matches_iff`: the path of a request holds its parts exactly if no id is a dot segment.
- `texts_of_written`, `routes_apart`, `parts_eq_of_texts`: which requests share a path.
- `parse?_request`; `requests_reach_their_resource_iff`, and requests that do not.
- `basic?`, `Addresses`, `authorizations_of_send?`: what the credentials in a base add to every request.
- `Served` with `Served.send?_request` and `Served.send?_plain`: what is sent to a base that is served.
-/

namespace Shoreline.Api

open Text Url Http

/-! ## Parts of a path -/

/-- A part of the path of a resource. -/
inductive Part
  | fixed (name : String)
  | id (text : String)

namespace Part

/-- What the part says. -/
def text : Part → String
  | fixed name => name
  | id text => text

/-- The name, unless an id is put in here. -/
def name? : Part → Option String
  | fixed name => some name
  | id _ => none

/-- The id, if there is one. -/
def id? : Part → Option String
  | fixed _ => none
  | id text => some text

/-- How the part is written into an address. -/
def written : Part → List Char
  | fixed name => name.toList
  | id text => (segment text).toList

/-- The segment is the name, or it is one segment that stands for the id. -/
def At : Part → List Char → Prop
  | fixed name, s => s = name.toList
  | id text, s => decodeBytes s = Text.encode text ∧ ∀ c ∈ s, isSlash c = false

end Part

/-! ## Requests -/

/-- What the server can be asked. -/
inductive Errand
  | logIn (form : LoginForm)
  | signUp (form : SignUpForm)
  | refresh (refreshToken : String)
  | logOut (refreshToken : String)
  | currentUser
  | resendVerification (email : String)
  | nearby (here : Position) (radius : Float)
  | beach (code : String)
  | favorites
  | add (id : String)
  | remove (id : String)
  | toggle (id : String)
  | check (id : String)
  | reserve (beachId : String) (wish : Wish)
  | cancel (beachId reservationId : String)
  | reservations
  | registerDevice (device : String)
  | setNotifications (enabled : Bool)

namespace Errand

/-- The request, with a token where one is needed. -/
def request (base : Base) (token : String) : Errand → Request
  | logIn form => Api.logIn base form
  | signUp form => Api.signUp base form
  | refresh refreshToken => Api.refresh base refreshToken
  | logOut refreshToken => Api.logOut base refreshToken
  | currentUser => Api.currentUser base token
  | resendVerification email => Api.resendVerification base email
  | nearby here radius => Api.nearby base here radius token
  | beach code => Api.beachByCode base code
  | favorites => Api.favorites base token
  | add id => Api.addFavorite base token id
  | remove id => Api.removeFavorite base token id
  | toggle id => Api.toggleFavorite base token id
  | check id => Api.checkFavorite base token id
  | reserve beachId wish => Api.reserve base token beachId wish
  | cancel beachId reservationId => Api.cancelReservation base token beachId reservationId
  | reservations => Api.reservations base token
  | registerDevice device => Api.registerDevice base token device
  | setNotifications enabled => Api.setNotifications base token enabled

/-- The path of the resource. -/
def parts : Errand → List Part
  | logIn _ => [.fixed "api", .fixed "auth", .fixed "login"]
  | signUp _ => [.fixed "api", .fixed "auth", .fixed "signup"]
  | refresh _ => [.fixed "api", .fixed "auth", .fixed "refresh"]
  | logOut _ => [.fixed "api", .fixed "auth", .fixed "logout"]
  | currentUser => [.fixed "api", .fixed "auth", .fixed "me"]
  | resendVerification _ => [.fixed "api", .fixed "auth", .fixed "resend-verification"]
  | nearby _ _ => [.fixed "api", .fixed "beaches"]
  | beach code => [.fixed "api", .fixed "beaches", .id code]
  | favorites => [.fixed "api", .fixed "favorites"]
  | add id | remove id => [.fixed "api", .fixed "favorites", .id id]
  | toggle id => [.fixed "api", .fixed "favorites", .id id, .fixed "toggle"]
  | check id => [.fixed "api", .fixed "favorites", .id id, .fixed "check"]
  | reserve beachId _ => [.fixed "api", .fixed "beaches", .id beachId, .fixed "reservations"]
  | cancel beachId reservationId =>
    [.fixed "api", .fixed "beaches", .id beachId, .fixed "reservations", .id reservationId]
  | reservations => [.fixed "api", .fixed "beaches", .fixed "reservations"]
  | registerDevice _ => [.fixed "api", .fixed "notifications", .fixed "fcm-token"]
  | setNotifications _ => [.fixed "api", .fixed "notifications", .fixed "settings"]

/-- What the parts of the path say. -/
def texts (e : Errand) : List String := e.parts.map Part.text

/-- The ids in the path. -/
def ids (e : Errand) : List String := e.parts.filterMap Part.id?

/-- The path with gaps in place of the ids. -/
def route (e : Errand) : List (Option String) := e.parts.map Part.name?

/-- Every path begins with the same name and goes on. -/
theorem parts_eq_cons (e : Errand) : ∃ rest, rest ≠ [] ∧ e.parts = .fixed "api" :: rest := by
  cases e <;> exact ⟨_, List.cons_ne_nil _ _, rfl⟩

theorem parts_ne_nil (e : Errand) : e.parts ≠ [] := by
  obtain ⟨rest, -, hparts⟩ := e.parts_eq_cons
  rw [hparts]
  exact List.cons_ne_nil _ _

/-- **The address of every request is the base with the parts of the path behind it.** -/
theorem address_request (base : Base) (token : String) (e : Errand) :
    (e.request base token).address =
      base ++ "/" ++ String.ofList (['/'].intercalate (e.parts.map Part.written)) := by
  cases e <;>
    simp [request, parts, Part.written, Api.segment, ← String.toList_inj, Api.logIn, Api.signUp,
      Api.refresh, Api.logOut, Api.currentUser, Api.resendVerification, Api.nearby, Api.beachByCode,
      Api.favorites, Api.favorite, Api.addFavorite, Api.removeFavorite, Api.toggleFavorite,
      Api.checkFavorite, Api.reserve, Api.cancelReservation, Api.reservations, Api.registerDevice,
      Api.setNotifications]

end Errand

/-! ## Routes -/

/-- The paths in use, with gaps in place of the ids. -/
def routes : List (List (Option String)) :=
  [[some "api", some "auth", some "login"], [some "api", some "auth", some "signup"],
    [some "api", some "auth", some "refresh"], [some "api", some "auth", some "logout"],
    [some "api", some "auth", some "me"], [some "api", some "auth", some "resend-verification"],
    [some "api", some "beaches"], [some "api", some "beaches", none],
    [some "api", some "favorites"], [some "api", some "favorites", none],
    [some "api", some "favorites", none, some "toggle"],
    [some "api", some "favorites", none, some "check"],
    [some "api", some "beaches", none, some "reservations"],
    [some "api", some "beaches", none, some "reservations", none],
    [some "api", some "beaches", some "reservations"],
    [some "api", some "notifications", some "fcm-token"],
    [some "api", some "notifications", some "settings"]]

theorem route_mem_routes (e : Errand) : e.route ∈ routes := by
  cases e <;> simp [Errand.route, Errand.parts, Part.name?, routes]

/-- The names on the routes need no encoding and are no dots. -/
theorem sound_routes : ∀ r ∈ routes, ∀ name? ∈ r, ∀ name ∈ name?,
    name.toList.all isUnreserved = true ∧ name ≠ "." ∧ name ≠ ".." := by
  decide +kernel

/-- A name that needs no encoding and is no dots; an id may be anything. -/
def Part.Sound : Part → Prop
  | .fixed name => name.toList.all isUnreserved = true ∧ name ≠ "." ∧ name ≠ ".."
  | .id _ => True

theorem sound_parts (e : Errand) : ∀ part ∈ e.parts, part.Sound := by
  intro part hpart
  cases part with
  | id text => trivial
  | fixed name =>
    have hroute : some name ∈ e.route := List.mem_map.mpr ⟨.fixed name, hpart, rfl⟩
    exact sound_routes e.route (route_mem_routes e) (some name) hroute name rfl

namespace Part

/-- Every part is written as the segment of what it says. -/
theorem written_eq {part : Part} (h : part.Sound) : part.written = (Url.segment part.text).toList := by
  cases part with
  | id text => rfl
  | fixed name =>
    have hsame : encode isUnreserved name.toList = name.toList :=
      encode_eq_self (List.all_eq_true.mp h.1)
    unfold Url.segment
    rw [String.toList_ofList]
    exact hsame.symm

theorem decodeBytes_written {part : Part} (h : part.Sound) :
    decodeBytes part.written = Text.encode part.text := by
  rw [written_eq h, decodeBytes_segment]

theorem pathChar_of_mem_written {part : Part} (h : part.Sound) {c : Char} (hc : c ∈ part.written) :
    isPathChar c = true ∧ isSlash c = false := by
  rw [written_eq h] at hc
  exact pathChar_of_mem_segment hc

/-- A part is written as it should be read. -/
theorem at_written (part : Part) : part.At part.written := by
  cases part with
  | fixed name => rfl
  | id text => exact ⟨decodeBytes_segment text, fun c hc => (pathChar_of_mem_segment hc).2⟩

/-- **A part is no dot segment exactly if it does not say dots.** -/
theorem undotted_written {part : Part} (h : part.Sound) :
    Undotted part.written ↔ part.text ≠ "." ∧ part.text ≠ ".." := by
  have hdot : isDot part.written = false ↔ part.text ≠ "." := by
    rw [← Bool.not_eq_true, isDot_iff, decodeBytes_written h]
    exact not_congr ⟨Text.encode_injective, congrArg Text.encode⟩
  have hdouble : isDoubleDot part.written = false ↔ part.text ≠ ".." := by
    rw [← Bool.not_eq_true, isDoubleDot_iff, decodeBytes_written h]
    exact not_congr ⟨Text.encode_injective, congrArg Text.encode⟩
  unfold Undotted
  rw [hdot, hdouble]

end Part

/-! ## The path of a request -/

theorem exists_at {parts : List Part} {segs : List (List Char)} (h : List.Forall₂ Part.At parts segs)
    {part : Part} (hpart : part ∈ parts) : ∃ s ∈ segs, part.At s := by
  induction h with
  | nil => cases hpart
  | @cons first s parts segs hat _ ih =>
    rcases List.mem_cons.mp hpart with rfl | hrest
    · exact ⟨s, List.mem_cons_self, hat⟩
    · obtain ⟨t, ht, hpart⟩ := ih hrest
      exact ⟨t, List.mem_cons_of_mem s ht, hpart⟩

theorem mem_ids_iff {e : Errand} {id : String} : id ∈ e.ids ↔ .id id ∈ e.parts := by
  unfold Errand.ids
  rw [List.mem_filterMap]
  constructor
  · rintro ⟨part, hpart, hid⟩
    cases part with
    | fixed name => cases hid
    | id text => exact Option.some.inj hid ▸ hpart
  · intro h
    exact ⟨.id id, h, rfl⟩

/-- No part of a path is a dot segment if no id is. -/
theorem undotted_parts {e : Errand} (h : ∀ id ∈ e.ids, id ≠ "." ∧ id ≠ "..") :
    ∀ s ∈ e.parts.map Part.written, Undotted s := by
  intro s hs
  obtain ⟨part, hpart, rfl⟩ := List.mem_map.mp hs
  have hsound := sound_parts e part hpart
  rw [Part.undotted_written hsound]
  cases part with
  | fixed name => exact hsound.2
  | id text => exact h text (mem_ids_iff.mpr hpart)

/-- Every part may stand in a path as one segment. -/
theorem Errand.pathChar_of_mem_parts (e : Errand) :
    ∀ s ∈ e.parts.map Part.written, ∀ c ∈ s, isPathChar c = true ∧ isSlash c = false := by
  intro s hs c hc
  obtain ⟨part, hpart, rfl⟩ := List.mem_map.mp hs
  exact Part.pathChar_of_mem_written (sound_parts e part hpart) hc

/-- **Below a path, a resource is reached exactly if no id is a dot segment.** -/
theorem resolve_matches_iff (e : Errand) {above : List (List Char)} (h : ∀ s ∈ above, Undotted s) :
    (∃ segs, resolve above.reverse (e.parts.map Part.written) = above ++ segs ∧
      List.Forall₂ Part.At e.parts segs) ↔ ∀ id ∈ e.ids, id ≠ "." ∧ id ≠ ".." := by
  constructor
  · rintro ⟨segs, hpath, hmatch⟩ id hid
    obtain ⟨s, hs, hat⟩ := exists_at hmatch (mem_ids_iff.mp hid)
    have hdecoded : decodeBytes s = Text.encode id := hat.1
    -- what is left of a path holds no dot segments, and whatever stands for dots is one
    have hplain : Undotted s := by
      refine undotted_resolve (fun t ht => h t (List.mem_reverse.mp ht)) (e.parts.map Part.written) s ?_
      rw [hpath]
      exact List.mem_append_right above hs
    constructor
    · rintro rfl
      exact Bool.false_ne_true (hplain.1.symm.trans ((isDot_iff s).mpr hdecoded))
    · rintro rfl
      exact Bool.false_ne_true (hplain.2.symm.trans ((isDoubleDot_iff s).mpr hdecoded))
  · intro hids
    refine ⟨e.parts.map Part.written, ?_, ?_⟩
    · rw [resolve_plain above.reverse _ (undotted_parts hids), List.reverse_reverse]
    · rw [List.forall₂_map_right_iff]
      exact List.forall₂_same.mpr fun part _ => part.at_written

/-! ## Paths in common -/

theorem segment_injective {a b : String} (h : (Url.segment a).toList = (Url.segment b).toList) :
    a = b := by
  refine Text.encode_injective ?_
  rw [← decodeBytes_segment, ← decodeBytes_segment, h]

/-- The path of a request tells what its parts say. -/
theorem texts_of_written {e e' : Errand}
    (h : e.parts.map Part.written = e'.parts.map Part.written) : e.texts = e'.texts := by
  have hwritten : ∀ e : Errand, e.parts.map Part.written =
      e.texts.map fun text => (Url.segment text).toList := by
    intro e
    unfold Errand.texts
    rw [List.map_map]
    exact List.map_congr_left fun part hpart => Part.written_eq (sound_parts e part hpart)
  rw [hwritten e, hwritten e'] at h
  exact List.map_injective_iff.mpr (fun _ _ => segment_injective) h

/-- One path can follow both routes: where both have a name, it is the same. -/
def agree : List (Option String) → List (Option String) → Bool
  | [], [] => true
  | a :: r, b :: s => (a.isNone || b.isNone || a == b) && agree r s
  | _, _ => false

theorem agree_of_texts {ps qs : List Part} (h : ps.map Part.text = qs.map Part.text) :
    agree (ps.map Part.name?) (qs.map Part.name?) = true := by
  induction ps generalizing qs with
  | nil =>
    rw [List.map_nil, eq_comm, List.map_eq_nil_iff] at h
    rw [h]
    rfl
  | cons p ps ih =>
    obtain ⟨q, qs, rfl, hq, hrest⟩ := List.map_eq_cons_iff.mp h.symm
    rw [List.map_cons, List.map_cons, agree, ih hrest.symm, Bool.and_true]
    cases p with
    | id text => rfl
    | fixed name =>
      cases q with
      | id text => rfl
      | fixed name' =>
        have hname : name' = name := hq
        rw [hname]
        exact Bool.or_eq_true_iff.mpr (.inr (beq_self_eq_true _))

theorem eq_of_names {ps qs : List Part} (hnames : ps.map Part.name? = qs.map Part.name?)
    (htexts : ps.map Part.text = qs.map Part.text) : ps = qs := by
  induction ps generalizing qs with
  | nil =>
    rw [List.map_nil, eq_comm, List.map_eq_nil_iff] at htexts
    exact htexts.symm
  | cons p ps ih =>
    obtain ⟨q, qs, rfl, hq, hrest⟩ := List.map_eq_cons_iff.mp htexts.symm
    obtain ⟨hname, hnames⟩ := List.cons.inj hnames
    have hp : p = q := by
      cases p with
      | fixed name =>
        cases q with
        | fixed name' => exact congrArg Part.fixed hq.symm
        | id text => cases hname
      | id text =>
        cases q with
        | fixed name' => cases hname
        | id text' => exact congrArg Part.id hq.symm
    rw [hp, ih hnames hrest.symm]

/-- What is said where all is fixed. -/
theorem texts_of_names {ps : List Part} {names : List String}
    (h : ps.map Part.name? = names.map some) : ps.map Part.text = names := by
  induction ps generalizing names with
  | nil =>
    rw [List.map_nil, eq_comm, List.map_eq_nil_iff] at h
    exact h.symm
  | cons p ps ih =>
    obtain ⟨name, names, rfl, hname, hrest⟩ := List.map_eq_cons_iff.mp h.symm
    cases p with
    | id text => cases hname
    | fixed name' => rw [List.map_cons, ih hrest.symm, ← Option.some.inj hname]; rfl

/-- The path of all reservations. -/
def reservationsPath : List String := ["api", "beaches", "reservations"]

/-- **Only one path belongs to two routes**: a beach with that code has the path of all reservations. -/
theorem routes_apart : ∀ r ∈ routes, ∀ s ∈ routes, agree r s = true →
    r = s ∨ r = reservationsPath.map some ∨ s = reservationsPath.map some := by
  decide +kernel

/-- Requests that say the same are about the same resource, but for one path. -/
theorem parts_eq_of_texts {e e' : Errand} (h : e.texts = e'.texts) :
    e.parts = e'.parts ∨ e.texts = reservationsPath := by
  rcases routes_apart _ (route_mem_routes e) _ (route_mem_routes e') (agree_of_texts h) with
    hsame | hleft | hright
  · exact .inl (eq_of_names hsame h)
  · exact .inr (texts_of_names hleft)
  · exact .inr (h.trans (texts_of_names hright))

/-! ## Resources -/

/-- A request goes to the address of its text, without the credentials there and with the parameters. -/
theorem destination_eq (r : Request) (a : Address) :
    ∃ query, r.destination a = { a.withoutCredentials with query := query } := by
  unfold Request.destination
  split
  · exact ⟨_, rfl⟩
  · obtain ⟨query, hquery, -⟩ := a.withoutCredentials.withQuery_eq r.parameters
    exact ⟨_, hquery⟩

/-- What is sent goes to the path of the address that was composed. -/
theorem path_of_send? {r : Request} {sent : Sent} (h : r.send? = .ok sent) {a : Address}
    (ha : Address.parse? r.address = some a) : sent.address.path = a.path := by
  obtain ⟨a', ⟨ha', -⟩, rfl⟩ := Request.send?_eq_ok h
  obtain rfl := Option.some.inj (ha.symm.trans ha')
  obtain ⟨query, hquery⟩ := destination_eq r a
  show (r.destination a).path = a.path
  rw [hquery]
  rfl

/-- A booking is for the id without the blanks around it. -/
theorem beachId_of_prepare {view : Calendar.View} {offset : Time.Offset} {target : BookingTarget}
    {now : Time.Instant} {b : Booking} (h : Booking.prepare view offset target now = .ok b) :
    target.beachId.map trim = some b.beachId := by
  unfold Booking.prepare at h
  obtain ⟨slot, -, h⟩ := of_bind_eq_ok h
  obtain ⟨beachId, hbeach, h⟩ := of_bind_eq_ok h
  have hmeant : Booking.meaningful target.beachId = some beachId := of_elim_eq_ok hbeach
  dsimp only at h
  split at h
  · obtain ⟨start, -, h⟩ := of_bind_eq_ok h
    split at h
    · cases h
    · obtain rfl := Except.ok.inj h
      exact (Option.filter_eq_some_iff.mp hmeant).1
  · cases h

/-- **What the address of a request is read as**: that of the base, and below its path the parts of the
request, in which dot segments are resolved. -/
theorem parse?_request {base : String} {a : Address} (h : Address.parse? base = some a)
    (web : a.scheme = "http" ∨ a.scheme = "https") (query : a.query = none) (fragment : a.fragment = none)
    (last : ∀ c ∈ base.toList.getLast?, 0x20 < c.toNat) :
    ∃ above k, a.path = .segments (above ++ List.replicate k []) ∧ (∀ s ∈ above, Undotted s) ∧
      ∀ (e : Errand) (token : String),
        Address.parse? (e.request (trimSlashes base) token).address =
          some { a with path := .segments (resolve above.reverse (e.parts.map Part.written)) } := by
  obtain ⟨port, own⟩ := exists_ownPort? web
  obtain ⟨above, k, hpath, habove, hbelow⟩ := parse?_below h own query fragment last
  refine ⟨above, k, hpath, habove, fun e token => ?_⟩
  rw [e.address_request]
  exact hbelow _ (fun hnil => e.parts_ne_nil (List.map_eq_nil_iff.mp hnil)) e.pathChar_of_mem_parts

/-- **Which requests reach the resource of their ids.** The base is an address of the web without a query
and a fragment, and its text does not end in a blank. Every request goes to that host, below the path of
the base; what follows there are the names of the route and in place of each id one segment that stands for
it, exactly if no id is `.` or `..`. Among the requests of which this is true the path tells the route and
the ids, but that a beach with the code `reservations` has the path of all reservations. A booking reserves
at the beach of its id without the blanks around it. -/
theorem requests_reach_their_resource_iff {base : String} {a : Address}
    (h : Address.parse? base = some a) (web : a.scheme = "http" ∨ a.scheme = "https")
    (query : a.query = none) (fragment : a.fragment = none)
    (last : ∀ c ∈ base.toList.getLast?, 0x20 < c.toNat) :
    ∃ above k, a.path = .segments (above ++ List.replicate k []) ∧
      (∀ (e : Errand) (token : String), ∃ segs,
        Address.parse? (e.request (trimSlashes base) token).address =
          some { a with path := .segments segs } ∧
        (∀ sent, (e.request (trimSlashes base) token).send? = .ok sent →
          sent.address.path = .segments segs) ∧
        ((∃ rest, segs = above ++ rest ∧ List.Forall₂ Part.At e.parts rest) ↔
          ∀ id ∈ e.ids, id ≠ "." ∧ id ≠ "..")) ∧
      (∀ (e e' : Errand) (token token' : String),
        (∀ id ∈ e.ids, id ≠ "." ∧ id ≠ "..") → (∀ id ∈ e'.ids, id ≠ "." ∧ id ≠ "..") →
        (Address.parse? (e.request (trimSlashes base) token).address).map (·.path) =
          (Address.parse? (e'.request (trimSlashes base) token').address).map (·.path) →
        e.parts = e'.parts ∨ e.texts = reservationsPath) ∧
      ∀ view offset target now b, Booking.prepare view offset target now = .ok b →
        target.beachId.map trim = some b.beachId := by
  obtain ⟨above, k, hpath, habove, hparse⟩ := parse?_request h web query fragment last
  refine ⟨above, k, hpath, ?_, ?_, fun _ _ _ _ _ => beachId_of_prepare⟩
  · intro e token
    refine ⟨_, hparse e token, ?_, resolve_matches_iff e habove⟩
    intro sent hsent
    exact path_of_send? hsent (hparse e token)
  · intro e e' token token' hids hids' hsame
    rw [hparse, hparse, Option.map_some, Option.map_some] at hsame
    have hsegs := Path.segments.inj (Option.some.inj hsame)
    rw [resolve_plain above.reverse _ (undotted_parts hids),
      resolve_plain above.reverse _ (undotted_parts hids')] at hsegs
    exact parts_eq_of_texts (texts_of_written (List.append_cancel_left hsegs))

/-- The method and the path of a request, if it can be sent. -/
def line? (r : Request) : Option (Method × String) :=
  r.send?.toOption.map fun sent => (sent.method, sent.address.target)

/-- **Dots miss their resource.** The id of the parent directory makes the toggle of a favorite another
request, below `api` with no favorites in its path. The one dot makes the addition of a favorite what it is
for the empty id. And the code of a beach can be the name of another resource. -/
theorem dots_miss_their_resource :
    Address.parse? "http://localhost" = some ⟨"http", none, some "localhost", .segments [[]], none, none⟩ ∧
    line? (toggleFavorite "http://localhost" "t" "..") = some (.put, "/api/toggle") ∧
    (¬ ∃ segs, (Address.parse? (toggleFavorite "http://localhost" "t" "..").address).map (·.path) =
        some (.segments segs) ∧ List.Forall₂ Part.At (Errand.toggle "..").parts segs) ∧
    line? (addFavorite "http://localhost" "t" ".") = some (.post, "/api/favorites/") ∧
    line? (addFavorite "http://localhost" "t" "") = some (.post, "/api/favorites/") ∧
    line? (beachByCode "http://localhost" "reservations") =
      line? (reservations "http://localhost" "t") := by
  refine ⟨by decide +kernel, by decide +kernel, ?_, by decide +kernel, by decide +kernel,
    by decide +kernel⟩
  rintro ⟨segs, hpath, hmatch⟩
  have htwo : (Address.parse? (toggleFavorite "http://localhost" "t" "..").address).map (·.path) =
      some (.segments ["api".toList, "toggle".toList]) := by decide +kernel
  obtain rfl := Path.segments.inj (Option.some.inj (hpath.symm.trans htwo))
  exact absurd hmatch.length_eq (by decide)

/-- A base with a path, and an id with a slash, a blank and dots: the request is for the favorite of that
id. With two dots it would not be, and with another id the path would be another. -/
theorem requests_reach_their_resource_iff_odd :
    Address.parse? "http://localhost:8080/v1/" =
      some ⟨"http", none, some "localhost:8080", .segments ["v1".toList, []], none, none⟩ ∧
    (∃ above k, [("v1".toList), []] = above ++ List.replicate k [] ∧
      (∃ segs, Address.parse? ((Errand.toggle "../7 ..").request "http://localhost:8080/v1" "t").address =
          some ⟨"http", none, some "localhost:8080", .segments segs, none, none⟩ ∧
        ∃ rest, segs = above ++ rest ∧ List.Forall₂ Part.At (Errand.toggle "../7 ..").parts rest) ∧
      (∃ segs, Address.parse? ((Errand.toggle "..").request "http://localhost:8080/v1" "t").address =
          some ⟨"http", none, some "localhost:8080", .segments segs, none, none⟩ ∧
        ¬ ∃ rest, segs = above ++ rest ∧ List.Forall₂ Part.At (Errand.toggle "..").parts rest)) ∧
    (Address.parse? ((Errand.toggle "../7 ..").request "http://localhost:8080/v1" "t").address).map
        (·.path) ≠
      (Address.parse? ((Errand.toggle "7").request "http://localhost:8080/v1" "t").address).map
        (·.path) := by
  have hparse : Address.parse? "http://localhost:8080/v1/" =
      some ⟨"http", none, some "localhost:8080", .segments ["v1".toList, []], none, none⟩ := by
    decide +kernel
  have htrim : trimSlashes "http://localhost:8080/v1/" = "http://localhost:8080/v1" := by decide
  have hlast : ∀ c ∈ "http://localhost:8080/v1/".toList.getLast?, 0x20 < c.toNat := by
    have hslash : "http://localhost:8080/v1/".toList.getLast? = some '/' := by decide
    rw [hslash]
    rintro c ⟨⟩
    decide
  obtain ⟨above, k, hpath, hreach, hapart, -⟩ :=
    requests_reach_their_resource_iff hparse (.inl rfl) rfl rfl hlast
  rw [htrim] at hreach hapart
  refine ⟨hparse, ⟨above, k, Path.segments.inj hpath, ?_, ?_⟩, ?_⟩
  · obtain ⟨segs, hsegs, -, hiff⟩ := hreach (.toggle "../7 ..") "t"
    exact ⟨segs, hsegs, hiff.mpr (by decide)⟩
  · obtain ⟨segs, hsegs, -, hiff⟩ := hreach (.toggle "..") "t"
    exact ⟨segs, hsegs, fun hmatch => absurd (hiff.mp hmatch) (by decide)⟩
  · intro hsame
    have hids : ∀ id ∈ (Errand.toggle "../7 ..").ids, id ≠ "." ∧ id ≠ ".." := by decide
    have hids' : ∀ id ∈ (Errand.toggle "7").ids, id ≠ "." ∧ id ≠ ".." := by decide
    rcases hapart _ _ "t" "t" hids hids' hsame with hparts | htexts
    · exact absurd (congrArg (·.map Part.text) hparts) (by decide)
    · exact absurd htexts (by decide)

/-! ## Credentials in a base -/

/-- The header by the credentials that a base holds. Whatever the server is asked for is below `api`. -/
def basic? (base : Base) : Option String :=
  ((Address.parse? (base ++ "/api")).bind Address.credentials?).map Request.basic

/-- What the credentials in a base add is not the header of a token. -/
theorem bearer_not_mem_basic? (base : Base) (token : String) : Request.bearer token ∉ basic? base := by
  intro h
  obtain ⟨c, -, hsame⟩ := Option.map_eq_some_iff.mp h
  exact Request.basic_ne_bearer c token hsame

/-- The address of the request is that of something that the server can be asked. -/
def Addresses (base : Base) (r : Request) : Prop :=
  ∃ (e : Errand) (token : String), r.address = (e.request base token).address

theorem Errand.addresses (base : Base) (token : String) (e : Errand) :
    Addresses base (e.request base token) := ⟨e, token, rfl⟩

/-- The beaches around a position are asked for with a token or without one. -/
theorem addresses_nearby (base : Base) (here : Position) (radius : Float) (token : Option String) :
    Addresses base (Api.nearby base here radius token) := ⟨.nearby here radius, "", rfl⟩

/-- The addresses of all requests hold the credentials of the base. -/
theorem Addresses.credentials? {base : Base} {r : Request} (h : Addresses base r) {a : Address}
    (parsed : Address.parse? r.address = some a) (web : a.scheme = "http" ∨ a.scheme = "https") :
    a.credentials?.map Request.basic = basic? base := by
  obtain ⟨e, token, haddress⟩ := h
  obtain ⟨rest, hrest, hparts⟩ := e.parts_eq_cons
  obtain ⟨port, own⟩ := exists_ownPort? web
  obtain ⟨second, others, hcons⟩ := List.exists_cons_of_ne_nil
    (fun hnil => hrest (List.map_eq_nil_iff.mp hnil) : rest.map Part.written ≠ [])
  have hwritten : ['/'].intercalate (e.parts.map Part.written) =
      "api".toList ++ '/' :: ['/'].intercalate (second :: others) := by
    rw [hparts, List.map_cons, hcons]
    rfl
  have hpath := isPathChar_of_mem_intercalate fun s hs c hc => (e.pathChar_of_mem_parts s hs c hc).1
  have htext : (e.request base token).address =
      String.ofList (base.toList ++ '/' :: ['/'].intercalate (e.parts.map Part.written)) := by
    simp [e.address_request, ← String.toList_inj]
  rw [haddress, htext, hwritten] at parsed
  rw [hwritten] at hpath
  have hslash : ∀ c ∈ ('/' :: ['/'].intercalate (second :: others)).head?, c = '/' :=
    fun c hc => (Option.some.inj hc).symm
  obtain ⟨above, habove, huser⟩ :=
    exists_parse?_above ⟨'a', by decide, by decide⟩ hslash hpath own parsed
  have hbase : base ++ "/api" = String.ofList (base.toList ++ '/' :: "api".toList) := by
    rw [String.ofList_append, String.ofList_toList]
    rfl
  unfold basic?
  rw [hbase, habove, Option.bind_some]
  unfold Address.credentials?
  rw [huser]

/-- **What a request carries.** It is the header by the credentials of the base, if there are any, and behind
it that by the access token, if there is one. -/
theorem authorizations_of_send? {base : Base} {r : Request} (h : Addresses base r) {sent : Sent}
    (hsent : r.send? = .ok sent) :
    sent.authorizations = (basic? base).toList ++ (r.token.map Request.bearer).toList := by
  obtain ⟨a, ⟨parsed, web⟩, rfl⟩ := Request.send?_eq_ok hsent
  have hscheme := Address.scheme_of_isWeb web
  obtain ⟨query, hquery⟩ := destination_eq r a
  rw [hquery] at hscheme
  show (a.credentials?.map Request.basic).toList ++ _ = _
  rw [h.credentials? parsed hscheme]

/-- A name and a password in the base stand in front of the token. -/
example : (favorites "http://user:pw@localhost" "t").send?.toOption.map (·.authorizations) =
    some ["Basic dXNlcjpwdw==", "Bearer t"] := by decide +kernel

/-! ## What is sent -/

/-- The text is the address of a host of the web, with neither a query nor a fragment, and does not end in a
blank. -/
structure Served (base : String) (a : Address) : Prop where
  parsed : Address.parse? base = some a
  web : a.isWeb = true
  query : a.query = none
  fragment : a.fragment = none
  last : ∀ c ∈ base.toList.getLast?, 0x20 < c.toNat

/-- How much longer than the base an address is with the path of a request. -/
def Errand.room (e : Errand) : Nat :=
  (String.ofList (Path.segments (e.parts.map Part.written)).text).utf8ByteSize

/-- **What is sent to a base that is served.** A request without parameters goes to the path of the base, less
empty segments at its end, with the parts of the request below it, unless an id is a dot segment, the token
cannot stand in a header or there is no room for the path. -/
theorem Served.send?_request {base : String} {a : Address} (h : Served base a) :
    ∃ above k, a.path = .segments (above ++ List.replicate k []) ∧
      ∀ (e : Errand) (token : String), (∀ id ∈ e.ids, id ≠ "." ∧ id ≠ "..") →
        a.text.utf8ByteSize + e.room < 65535 →
        ∀ r, e.request (trimSlashes base) token = r → r.parameters = [] →
          (r.token.getD "").toList.all isHeaderChar = true →
          Address.parse? r.address =
            some { a with path := .segments (above ++ e.parts.map Part.written) } ∧
          r.send? = .ok ⟨r.method,
            Address.withoutCredentials { a with path := .segments (above ++ e.parts.map Part.written) },
            r.authorizations a, r.body⟩ := by
  have hhost := Address.namesHost_of_isWeb h.parsed h.web
  obtain ⟨above, k, hpath, habove, hparse⟩ :=
    parse?_request h.parsed (Address.scheme_of_isWeb h.web) h.query h.fragment h.last
  refine ⟨above, k, hpath, ?_⟩
  rintro e token hids short r rfl hparameters hheader
  have haddress := hparse e token
  rw [resolve_plain above.reverse _ (undotted_parts hids), List.reverse_reverse] at haddress
  have hweb : Address.isWeb { a with path := .segments (above ++ e.parts.map Part.written) } = true :=
    Address.isWeb_below h.web hhost hpath short
  have hdestination : ∀ b : Address, (e.request (trimSlashes base) token).destination b =
      b.withoutCredentials := by
    intro b
    unfold Request.destination
    rw [hparameters]
    rfl
  rw [← hdestination]
  refine ⟨haddress, Request.send?_of_parsed haddress hhost hheader ?_⟩
  rw [hdestination]
  exact Address.isWeb_withoutCredentials hweb

/-- **A request without ids, parameters and token is sent to every base that is served.** -/
theorem Served.send?_plain {base : String} {a : Address} (h : Served base a) :
    ∃ above k, a.path = .segments (above ++ List.replicate k []) ∧
      ∀ (e : Errand) r, e.request (trimSlashes base) "" = r → e.ids = [] → r.parameters = [] →
        r.token = none → a.text.utf8ByteSize + e.room < 65535 →
        Address.parse? r.address =
          some { a with path := .segments (above ++ e.parts.map Part.written) } ∧
        r.send? = .ok ⟨r.method,
          Address.withoutCredentials { a with path := .segments (above ++ e.parts.map Part.written) },
          (a.credentials?.map Request.basic).toList, r.body⟩ := by
  obtain ⟨above, k, hpath, hsend⟩ := h.send?_request
  refine ⟨above, k, hpath, ?_⟩
  intro e r hr hids hparameters htoken room
  obtain ⟨hparse, hsent⟩ := hsend e "" (by rw [hids]; exact List.forall_mem_nil _) room r hr hparameters
    (by rw [htoken]; rfl)
  unfold Request.authorizations at hsent
  rw [htoken, Option.map_none, Option.toList_none, List.append_nil] at hsent
  exact ⟨hparse, hsent⟩

end Shoreline.Api
