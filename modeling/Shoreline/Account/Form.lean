import Shoreline.Failure

/-!
# `Shoreline.Account.Form` — the forms for logging in and signing up

A form is checked before anything is sent. Names and addresses are taken without the blanks around
them, passwords as they are. The check of a form yields what is to be sent, or one message for each
field that breaks a rule.

## Contents
- `LoginForm.check`, `SignUpForm.check`.
- `isEmailAddress`, `isStrongPassword`: the rules that take more than a length.
-/

namespace Shoreline

open Text

/-! ## Messages -/

/-- The messages about the fields of a form: for each field that breaks a rule, what to say. -/
def fieldMessages (complaints : List (String × Option String)) : FieldMessages :=
  SortedMap.ofList (complaints.filterMap fun c => c.2.map fun message => (c.1, message))

/-- A form is in order when there is nothing to say about it. -/
def checked {α : Type} (form : α) (messages : FieldMessages) : Except FieldMessages α :=
  if messages.isEmpty then .ok form else .error messages

/-- What is said about an empty name. -/
def nameRequired : String := "이름을 입력해 주세요."

/-- What is said about an empty address. -/
def emailRequired : String := "이메일을 입력해 주세요."

/-- What is said about an empty password. -/
def passwordRequired : String := "비밀번호를 입력해 주세요."

/-! ## Logging in -/

/-- What is sent to log in. -/
structure LoginForm where
  email : String
  password : String
deriving DecidableEq, Repr

namespace LoginForm

/-- The form that a user filled in. -/
def fill (email password : String) : LoginForm := ⟨trim email, password⟩

/-- Neither field may be empty. -/
def check (f : LoginForm) : Except FieldMessages LoginForm :=
  checked f <| fieldMessages
    [("email", if f.email.isEmpty then some emailRequired else none),
      ("password", if f.password.isEmpty then some passwordRequired else none)]

end LoginForm

/-! ## Signing up -/

/-- An e-mail address as far as it is checked: no blanks, and an `@` and a later dot with something
before, between and behind them. -/
def isEmailAddress (s : List Char) : Bool :=
  s.all (!isBlank ·) &&
    match (s.drop 1).dropWhile (· != '@') with
    | _ :: _ :: rest => rest.dropLast.contains '.'
    | _ => false

/-- The symbols that a password may hold. -/
def passwordSymbols : List Char := ['@', '$', '!', '%', '*', '?', '&']

/-- A password of letters and digits of ASCII and symbols, with a small letter, a capital letter, a
digit and a symbol among them. -/
def isStrongPassword (s : List Char) : Bool :=
  s.all (fun c => c.isAlphanum || passwordSymbols.contains c) && s.any Char.isLower &&
    s.any Char.isUpper && s.any Char.isDigit && s.any passwordSymbols.contains

/-- What is sent to sign up. -/
structure SignUpForm where
  name : String
  email : String
  password : String
deriving DecidableEq, Repr

namespace SignUpForm

/-- The form that a user filled in. -/
def fill (name email password : String) : SignUpForm := ⟨trim name, trim email, password⟩

/-- A name has two to a hundred characters. -/
def nameComplaint (name : String) : Option String :=
  if name.isEmpty then some nameRequired
  else if 2 ≤ name.length ∧ name.length ≤ 100 then none
  else some "이름은 2자 이상 100자 이하로 입력해 주세요."

/-- An address looks like one. -/
def emailComplaint (email : String) : Option String :=
  if email.isEmpty then some emailRequired
  else if isEmailAddress email.toList then none
  else some "올바른 이메일을 입력해 주세요."

/-- A password has eight characters or more and is strong; of two complaints the one about its
length is made. -/
def passwordComplaint (password : String) : Option String :=
  if password.isEmpty then some passwordRequired
  else if password.length < 8 then some "비밀번호는 8자 이상이어야 합니다."
  else if isStrongPassword password.toList then none
  else some "비밀번호는 대문자/소문자/숫자/특수문자를 포함해야 합니다."

/-- Every field keeps its rule. -/
def check (f : SignUpForm) : Except FieldMessages SignUpForm :=
  checked f <| fieldMessages
    [("name", nameComplaint f.name), ("email", emailComplaint f.email),
      ("password", passwordComplaint f.password)]

end SignUpForm

end Shoreline
