import Shoreline.Proofs.Account.SignUpForm
import Shoreline.Proofs.Api.Resources
import Shoreline.Proofs.Client.Conduct

/-!
# `Shoreline.Proofs.Client.SignUp` — signing up sends just the forms that keep the rules

A user who signs up fills in three fields. Name and address are taken without the blanks around them, the
password as it is. Whether anything is sent is for the check of the form to say; what is sent is the form that
was checked, once, and the reply to it ends the sign-up, whatever it is.

## Contents
- `Client.begin_signUp_of_valid`, `Client.begin_signUp_of_not_valid`, `Client.resume_signUp`.
- `Client.conduct_signUp_sent`, `Client.conduct_signUp_unsent`, `Client.conduct_signUp_refused`.
- `Client.sign_up_sends_valid_forms`, with a form that is sent and one of which every field is complained about.
-/

namespace Shoreline

open Text Url Http Json

namespace Client

variable {c : Client} {name email password : String}

/-! ## One form -/

theorem begin_signUp_of_valid (h : (SignUpForm.fill name email password).Valid) :
    c.begin (.signUp name email password) =
      c.issue (Api.signUp c.base (.fill name email password)) (.signUp (trim email)) := by
  show c.beginSignUp name email password = _
  unfold beginSignUp
  rw [SignUpForm.check_of_valid h]
  rfl

theorem begin_signUp_of_not_valid (h : ¬ (SignUpForm.fill name email password).Valid) :
    ∃ fields : FieldMessages,
      c.begin (.signUp name email password) = (c, .done (.signedUp (.error (.invalid fields)))) ∧
      (∀ field, fields.contains field = true ↔ (SignUpForm.fill name email password).Breaks field) ∧
      ∀ field message, fields.get? field = some message ↔
        (SignUpForm.fill name email password).Says field message := by
  obtain ⟨fields, hcheck, hsaid⟩ := SignUpForm.check_of_not_valid h
  refine ⟨fields, ?_, hsaid⟩
  show c.beginSignUp name email password = _
  unfold beginSignUp
  rw [hcheck]
  rfl

/-- The reply to a sign-up ends it and changes nothing. -/
theorem resume_signUp (c : Client) (address : String) (r : Reply) (now : Int) :
    ∃ a, c.resume (.signUp address) r now = (c, .done a) := by
  cases hread : (Pending.signUp address).read r with
  | ok profile => exact ⟨_, resume_of_ok hread now⟩
  | error e => exact ⟨_, resume_of_error hread now⟩

/-- A form that keeps the rules is sent once, if it can be sent. -/
theorem conduct_signUp_sent (h : (SignUpForm.fill name email password).Valid) {sent : Sent}
    (hsend : (Api.signUp c.base (.fill name email password)).send? = .ok sent) (w : World) :
    ∃ a, c.conduct w (.signUp name email password) = ((c, a), [(sent, w.reply [] sent)]) := by
  have hbegin : c.begin (.signUp name email password) = (c, .ask sent (.signUp (trim email))) :=
    (begin_signUp_of_valid h).trans (c.issue_of_sent _ hsend)
  obtain ⟨a, hended⟩ := c.resume_signUp (trim email) (w.reply [] sent) (w.clock [(sent, w.reply [] sent)])
  exact ⟨a, conduct_answered hbegin w hended⟩

/-- If it cannot be sent, that is the failure. -/
theorem conduct_signUp_unsent (h : (SignUpForm.fill name email password).Valid) {fault : TransportFault}
    (hsend : (Api.signUp c.base (.fill name email password)).send? = .error fault) (w : World) :
    c.conduct w (.signUp name email password) =
      ((c, .signedUp (.error (.transport fault.message))), []) :=
  conduct_unsent (begin_signUp_of_valid h) hsend w

/-! ## The request -/

/-- The path of the sign-up. -/
def signUpPath : List (List Char) := ["api".toList, "auth".toList, "signup".toList]

/-- **A form can be sent to a server that can be asked**, whatever is in it. -/
theorem send?_signUp {base : String} {a : Address} (h : Api.Served base a)
    (room : a.text.utf8ByteSize + 16 < 65535) :
    ∃ above k, a.path = .segments (above ++ List.replicate k []) ∧ ∀ f : SignUpForm,
      (Api.signUp (trimSlashes base) f).send? =
        .ok ⟨.post, Address.withoutCredentials { a with path := .segments (above ++ signUpPath) },
          (a.credentials?.map Request.basic).toList, (Api.signUp (trimSlashes base) f).body⟩ := by
  obtain ⟨above, k, hpath, hsend⟩ := h.send?_plain
  refine ⟨above, k, hpath, ?_⟩
  intro f
  have hroom : (Api.Errand.signUp f).room = 16 := rfl
  exact (hsend (.signUp f) _ rfl rfl rfl rfl (by rw [hroom]; exact room)).2

/-- **Just the forms that keep the rules are sent.** A user fills in name, address and password and signs up,
and nothing else runs. The form is that of the name and the address without the blanks around them and of the
password as it is. If it can be sent to the server at all, then one request is exchanged exactly if the form
keeps all rules, and none otherwise; the request has no access token, and what it carries is that form. It can
be sent if the base is one that requests can be sent to, and goes to the address of the sign-up then, without
the credentials that the base may hold. If the form breaks a rule, then nothing is sent, wherever the server
is, nothing changes, and the failure names just the fields that break theirs, with what is to be said about
each. If it keeps them and cannot be sent, that is the failure. -/
theorem sign_up_sends_valid_forms {w : World} {ended : Ended} {log : Log} {f : SignUpForm}
    (form : f = ⟨trim name, trim email, password⟩)
    (run : c.conduct w (.signUp name email password) = (ended, log)) :
    (∀ sent, (Api.signUp c.base f).send? = .ok sent →
      (log = [(sent, w.reply [] sent)] ↔ f.Valid) ∧ (log = [] ↔ ¬ f.Valid) ∧
      sent.method = .post ∧ (∀ token, Request.bearer token ∉ sent.authorizations) ∧
      sent.body = some (.obj [("email", .str (trim email)), ("password", .str password),
        ("name", .str (trim name))])) ∧
    (∀ a, Api.Served c.settings.baseAddress a → a.text.utf8ByteSize + 16 < 65535 →
      ∃ above k sent, a.path = .segments (above ++ List.replicate k []) ∧
        sent.address = Address.withoutCredentials { a with path := .segments (above ++ signUpPath) } ∧
        (Api.signUp c.base f).send? = .ok sent) ∧
    (¬ f.Valid → log = [] ∧ ∃ fields : FieldMessages, ended = (c, .signedUp (.error (.invalid fields))) ∧
      (∀ field, fields.contains field = true ↔ f.Breaks field) ∧
      ∀ field message, fields.get? field = some message ↔ f.Says field message) ∧
    ∀ fault, f.Valid → (Api.signUp c.base f).send? = .error fault →
      log = [] ∧ ended = (c, .signedUp (.error (.transport fault.message))) := by
  subst form
  have refused : ¬ (SignUpForm.fill name email password).Valid → log = [] ∧ ∃ fields : FieldMessages,
      ended = (c, .signedUp (.error (.invalid fields))) ∧
      (∀ field, fields.contains field = true ↔ (SignUpForm.fill name email password).Breaks field) ∧
      ∀ field message, fields.get? field = some message ↔
        (SignUpForm.fill name email password).Says field message := by
    intro h
    obtain ⟨fields, hbegin, hsaid⟩ := begin_signUp_of_not_valid h
    obtain ⟨rfl, rfl⟩ := Prod.mk.inj (run.symm.trans (conduct_done hbegin w))
    exact ⟨rfl, fields, rfl, hsaid⟩
  refine ⟨?_, ?_, refused, ?_⟩
  · intro sent hsend
    have hvalid : (SignUpForm.fill name email password).Valid → log = [(sent, w.reply [] sent)] := by
      intro h
      obtain ⟨a, hsent⟩ := conduct_signUp_sent h hsend w
      exact (Prod.mk.inj (run.symm.trans hsent)).2
    obtain ⟨_, -, rfl⟩ := Request.send?_eq_ok hsend
    refine ⟨⟨?_, hvalid⟩, ⟨?_, fun h => (refused h).1⟩, rfl, fun token => ?_, rfl⟩
    · intro hone
      by_contra hbreaks
      rw [(refused hbreaks).1] at hone
      cases hone
    · intro hnone h
      rw [hvalid h] at hnone
      cases hnone
    · exact mt Request.bearer_mem_authorizations_iff.mp nofun
  · intro a served room
    obtain ⟨above, k, hpath, hsend⟩ := send?_signUp served room
    exact ⟨above, k, _, hpath, rfl, hsend _⟩
  · intro fault h hsend
    have hunsent := conduct_signUp_unsent h hsend w
    obtain ⟨rfl, rfl⟩ := Prod.mk.inj (run.symm.trans hunsent)
    exact ⟨rfl, rfl⟩

/-- A client of a guest, on an empty store. -/
def newcomer : Client := opened Traffic.sampleSettings (.inMemory SortedMap.empty)

/-- A server that is never reached. -/
def unreachable : World := ⟨fun _ sent => .failed (.unanswered sent.address), fun _ => 0⟩

/-- An address with two at signs and two dots is one, and the form with it is sent; a name of one letter, an
address without a dot and a password that is both short and weak are complained about one by one, the
last for its length. -/
theorem sign_up_sends_valid_forms_both :
    (∃ sent, (newcomer.conduct unreachable (.signUp " 바다" "a@b@c.co.kr " "Beach123!")).2 =
        [(sent, .failed (.unanswered sent.address))] ∧
      sent.body = some (.obj [("email", .str "a@b@c.co.kr"), ("password", .str "Beach123!"),
        ("name", .str "바다")])) ∧
    (newcomer.conduct unreachable (.signUp "A" " " "aaaa")).2 = [] ∧
    ∃ fields : FieldMessages, (newcomer.conduct unreachable (.signUp "A" " " "aaaa")).1 =
        (newcomer, .signedUp (.error (.invalid fields))) ∧
      fields.get? "name" = some "이름은 2자 이상 100자 이하로 입력해 주세요." ∧
      fields.get? "email" = some "이메일을 입력해 주세요." ∧
      fields.get? "password" = some "비밀번호는 8자 이상이어야 합니다." := by
  have hname : trim " 바다" = "바다" := by decide
  have hemail : trim "a@b@c.co.kr " = "a@b@c.co.kr" := by decide
  have hsendable : (Api.signUp newcomer.base ⟨trim " 바다", trim "a@b@c.co.kr ", "Beach123!"⟩).send?.isOk =
      true := by
    decide +kernel
  have hvalid : SignUpForm.Valid ⟨trim " 바다", trim "a@b@c.co.kr ", "Beach123!"⟩ :=
    ⟨by decide, (isEmailAddress_iff _).mp (by decide), by decide, (isStrongPassword_iff _).mp (by decide)⟩
  have hbreaks : ¬ SignUpForm.Valid ⟨trim "A", trim " ", "aaaa"⟩ := by
    intro h
    exact absurd h.name.1 (by decide)
  obtain ⟨sent, hsend⟩ := exists_of_isOk hsendable
  obtain ⟨hsent, -⟩ := sign_up_sends_valid_forms rfl
    (rfl : newcomer.conduct unreachable (.signUp " 바다" "a@b@c.co.kr " "Beach123!") = (_, _))
  obtain ⟨-, -, hrefused, -⟩ := sign_up_sends_valid_forms rfl
    (rfl : newcomer.conduct unreachable (.signUp "A" " " "aaaa") = (_, _))
  obtain ⟨hone, -, -, -, hbody⟩ := hsent sent hsend
  obtain ⟨hnone, fields, hended, -, hsaid⟩ := hrefused hbreaks
  refine ⟨⟨sent, hone.mpr hvalid, ?_⟩, hnone, fields, hended, ?_, ?_, ?_⟩
  · rw [hbody, hname, hemail]
  · exact (hsaid _ _).mpr (.nameLength (by decide) (by decide))
  · exact (hsaid _ _).mpr (.emailMissing (by decide))
  · exact (hsaid _ _).mpr (.passwordShort (by decide) (by decide))

end Client

end Shoreline
