import Shoreline.Url.Host

/-!
# `Shoreline.Url.Address` — addresses of requests

The text of an address is brought into the normal form of the URL standard before anything is sent:
control characters and blanks around it are dropped, tabs and line ends inside it too, the scheme and
the host are put in small letters, `.` and `..` segments of the path are resolved, and characters that
may not stand in a part of it are percent-encoded. Requests go to `http` and `https` addresses only
(`Address.isWeb`); all others are read as far as it takes to write them into a message. A name and a
password in front of the host are credentials: they are taken out of the address of a request and go
into a header of it (`Address.credentials?`, `Address.withoutCredentials`).

## Contents
- `isDot`, `isDoubleDot`, `resolve`, `Path`: paths.
- `User`, `userOf`; `Address`, its `target` (path and query) and its `text`; `Address.isWeb`.
- `Address.parse?`, `Address.withQuery`.
- `Credentials`, `Address.credentials?`, `Address.withoutCredentials`.
-/

namespace Shoreline.Url

open Shoreline.Text

/-! ## Paths -/

/-- A segment that stands for the place it is in. -/
def isDot (s : List Char) : Bool :=
  let s := s.map Char.toLower
  s == ".".toList || s == "%2e".toList

/-- A segment that stands for the place above. -/
def isDoubleDot (s : List Char) : Bool :=
  let s := s.map Char.toLower
  s == "..".toList || s == ".%2e".toList || s == "%2e.".toList || s == "%2e%2e".toList

/-- Resolve the dot segments of a path. `above` holds the segments so far, last first. A dot segment
at the end leaves an empty segment, so that the path ends in a slash. -/
def resolve (above : List (List Char)) : List (List Char) → List (List Char)
  | [] => above.reverse
  | s :: rest =>
    if isDoubleDot s then
      resolve (if rest.isEmpty then [] :: above.drop 1 else above.drop 1) rest
    else if isDot s then resolve (if rest.isEmpty then [] :: above else above) rest
    else resolve (s :: above) rest

/-- A path without dot segments stays as it is. -/
theorem resolve_plain (above segs : List (List Char))
    (h : ∀ s ∈ segs, isDot s = false ∧ isDoubleDot s = false) :
    resolve above segs = above.reverse ++ segs := by
  induction segs generalizing above with
  | nil => simp [resolve]
  | cons s rest ih =>
    obtain ⟨h₁, h₂⟩ := h s (by simp)
    rw [resolve, h₂, if_neg (by simp), h₁, if_neg (by simp),
      ih _ (fun t ht => h t (List.mem_cons_of_mem _ ht))]
    simp

/-- A character that ends a segment in the address of a network. -/
def isSlash (c : Char) : Bool := c = '/' || c = '\\'

/-- Printable ASCII without the members of a list. -/
def printableExcept (excluded : List Char) (c : Char) : Bool :=
  0x21 ≤ c.toNat && c.toNat ≤ 0x7E && !excluded.contains c

/-- Characters that stand for themselves in a path. -/
def isPathChar (c : Char) : Bool :=
  printableExcept ['"', '#', '<', '>', '?', '^', Char.ofNat 0x60, Char.ofNat 0x7B, Char.ofNat 0x7D] c

/-- The segments of the text of a path, which may begin with what separates them. -/
def pathSegments (separates : Char → Bool) (s : List Char) : List (List Char) :=
  let s :=
    match s with
    | c :: r => if separates c then r else c :: r
    | [] => []
  resolve [] ((splitAt separates s).map (encode isPathChar))

/-- A path. -/
inductive Path
  /-- Segments, each with a slash in front of it, encoded. -/
  | segments (l : List (List Char))
  /-- The path of an address that has no structure, such as that of a mailbox. -/
  | plain (s : List Char)
deriving DecidableEq

/-- A path as it is written. -/
def Path.text : Path → List Char
  | segments l => l.flatMap ('/' :: ·)
  | plain s => s

/-! ## User information -/

/-- Characters that stand for themselves in front of a host. -/
def isUserChar (c : Char) : Bool :=
  isPathChar c && ['/', ':', ';', '=', '@', '[', '\\', ']', '|'].all (· != c)

/-- A text up to the first occurrence of a character, and what follows it. -/
def cut (c : Char) (s : List Char) : List Char × Option (List Char) :=
  match s.span (· != c) with
  | (before, _ :: after) => (before, some after)
  | (before, []) => (before, none)

/-- Who asks, as an address has it in front of its host, encoded. -/
structure User where
  name : List Char
  /-- What follows the first colon; it is not empty. -/
  password : Option (List Char)
deriving DecidableEq

/-- A user as it is written. -/
def User.text (u : User) : List Char := u.name ++ (u.password.map (':' :: ·)).getD [] ++ ['@']

/-- An authority without the user information in front of its last `@`. -/
def withoutUser (s : List Char) : List Char := (splitAt (· = '@') s).getLast?.getD []

/-- The user information of an authority, if it says anything. -/
def userOf (s : List Char) : Option User :=
  let (name, password) := cut ':' (['@'].intercalate (splitAt (· = '@') s).dropLast)
  let password := password.filter (!·.isEmpty)
  if name.isEmpty && password.isNone then none
  else some ⟨encode isUserChar name, password.map (encode isUserChar)⟩

/-! ## Addresses -/

/-- A normalised address. -/
structure Address where
  /-- What stands before the first colon, in small letters. -/
  scheme : String
  /-- The user information in front of the host. -/
  user : Option User
  /-- The host, with the port if it is not the scheme's own. An address that names no host has none,
  or an empty one. -/
  authority : Option String
  path : Path
  /-- The query, encoded, without the question mark. -/
  query : Option (List Char)
  /-- What follows the `#`, encoded. It is not sent. -/
  fragment : Option (List Char)
deriving DecidableEq

/-- Characters that stand for themselves in a query; in that of a network, quotes do not. -/
def isQueryChar (network : Bool) (c : Char) : Bool :=
  printableExcept ['"', '#', '<', '>'] c && !(network && c = '\'')

/-- Characters that stand for themselves behind a `#`. -/
def isFragmentChar (c : Char) : Bool := printableExcept ['"', '<', '>', Char.ofNat 0x60] c

/-- The port of a scheme for a network, if connections have one of their own. -/
def ownPort? (scheme : String) : Option Nat :=
  [("http", 80), ("https", 443), ("ws", 80), ("wss", 443), ("ftp", 21)].lookup scheme

namespace Address

/-- What is asked of the server: path and query. -/
def target (a : Address) : String :=
  String.ofList (a.path.text ++ (a.query.map ('?' :: ·)).getD [])

/-- What stands in front of the path. A path that looks like an authority is kept from being one. -/
def front (a : Address) : String :=
  match a.authority, a.path with
  | some host, _ => "//" ++ String.ofList ((a.user.map User.text).getD []) ++ host
  | none, .segments ([] :: _ :: _) => "/."
  | none, _ => ""

/-- The whole text of an address. -/
def text (a : Address) : String :=
  a.scheme ++ ":" ++ a.front ++ a.target ++ String.ofList ((a.fragment.map ('#' :: ·)).getD [])

/-- Whether an address names a host. -/
def namesHost (a : Address) : Bool := a.authority.any (· ≠ "")

/-- A character that the URL standard lets into a host and HTTP does not. -/
def isRefused (c : Char) : Bool := ['"', Char.ofNat 0x60, Char.ofNat 0x7B, Char.ofNat 0x7D].contains c

/-- Whether requests can be sent to an address: it belongs to the web, its host can stand in a
request, and it is not too long. -/
def isWeb (a : Address) : Bool :=
  ["http", "https"].contains a.scheme && !(a.authority.getD "").toList.any isRefused &&
    a.text.utf8ByteSize < 65535

/-- The scheme in front of a text, in small letters, and what follows its colon. -/
def scheme? (s : List Char) : Option (String × List Char) :=
  let name := s.takeWhile (fun c => c.isAlphanum || c = '+' || c = '-' || c = '.')
  match name, s.drop name.length with
  | c :: _, ':' :: rest =>
    if c.isAlpha then some (lowerAscii (String.ofList name), rest) else none
  | _, _ => none

/-- User, authority and path in an address of a network. It does not matter how many slashes begin it. -/
def network? (port : Nat) (s : List Char) : Option (Option User × Option String × Path) := do
  let s := stripStart isSlash s
  let (authority, path) := s.span (!isSlash ·)
  let host ← hostAndPort? host? port (withoutUser authority)
  some (userOf authority, host, .segments (pathSegments isSlash path))

/-- Authority and path in the address of a file, which has no user. This machine need not be named. -/
def file? (s : List Char) : Option (Option User × Option String × Path) :=
  match s with
  | a :: b :: r =>
    if isSlash a && isSlash b then do
      let (name, path) := r.span (!isSlash ·)
      let host ← if name.isEmpty then some [] else host? name
      let host := if host = "localhost".toList then "" else String.ofList host
      some (none, some host, .segments (pathSegments isSlash path))
    else some (none, some "", .segments (pathSegments isSlash s))
  | s => some (none, some "", .segments (pathSegments isSlash s))

/-- User, authority and path in any other address. -/
def other? (s : List Char) : Option (Option User × Option String × Path) :=
  match s with
  | '/' :: '/' :: s => do
    let (authority, path) := s.span (· != '/')
    let rest := withoutUser authority
    if rest.head? = some ':' || (rest.isEmpty && !authority.isEmpty) then none
    else
      let host ← hostAndPort? plainHost? none rest
      some (userOf authority, host,
        .segments (if path.isEmpty then [] else pathSegments (· = '/') path))
  | '/' :: s => some (none, none, .segments (pathSegments (· = '/') ('/' :: s)))
  | s => some (none, none, .plain (encode (fun c => 0x20 ≤ c.toNat && c.toNat ≤ 0x7E) s))

/-- The address of a text. -/
def parse? (s : String) : Option Address := do
  let cs := strip (fun c => c.toNat ≤ 0x20) s.toList
  let cs := cs.filter (fun c => c ≠ '\t' && c ≠ '\n' && c ≠ '\r')
  let (scheme, rest) ← scheme? cs
  let (rest, fragment) := cut '#' rest
  let (rest, query) := cut '?' rest
  let (user, authority, path) ←
    match ownPort? scheme with
    | some port => network? port rest
    | none => if scheme = "file" then file? rest else other? rest
  let network := (ownPort? scheme).isSome || scheme = "file"
  return ⟨scheme, user, authority, path, query.map (encode (isQueryChar network)),
    fragment.map (encode isFragmentChar)⟩

/-- The address with more parameters at the end of its query. Names and values hold no characters
that would need encoding. -/
def withQuery (a : Address) (pairs : List (String × String)) : Address :=
  let more := "&".intercalate (pairs.map fun p => p.1 ++ "=" ++ p.2)
  match a.query with
  | some (c :: q) => { a with query := some (c :: q ++ '&' :: more.toList) }
  | _ => { a with query := some more.toList }

end Address

/-! ## Credentials -/

/-- A name and a password to ask with. -/
structure Credentials where
  name : String
  password : Option String
deriving DecidableEq, Repr

/-- What the user information says, if its name is a text that is not empty, or a password comes with it.
A password that is no text counts as missing. -/
def User.credentials? (u : User) : Option Credentials := do
  let name ← decode? (decodeBytes u.name)
  let password := u.password.bind fun s => decode? (decodeBytes s)
  if name.isEmpty && password.isNone then none else some ⟨name, password⟩

namespace Address

/-- The credentials in an address. -/
def credentials? (a : Address) : Option Credentials := a.user.bind User.credentials?

/-- An address without the credentials in it. User information that is none stays. -/
def withoutCredentials (a : Address) : Address :=
  { a with user := if a.credentials?.isSome then none else a.user }

end Address

end Shoreline.Url
