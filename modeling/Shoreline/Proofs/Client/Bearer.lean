import Shoreline.Proofs.Api.Resources
import Shoreline.Proofs.Client.Asks
import Shoreline.Proofs.Client.Deeds
import Shoreline.Proofs.Client.Renewal

/-!
# `Shoreline.Proofs.Client.Bearer` — whose token a request carries

An operation may wait long, and the session may change meanwhile; but a token is read only when a request
is made, never kept for a later one. So a request carries the token of the session that is held when it is
sent, or none: `Client.Carries` says so of every step, whatever waits and whoever is logged in. A token
that the session no longer has comes back to the requests only with a log-in or a renewal that brings it
back to the session. Credentials in the address of the server stand in a header of their own on every
request, in front of the one for the token; they are none of the session's.

## Contents
- `Settings.basic?`: the header by the credentials in the address of the server.
- `Pending.usesToken`; `Client.Carries` with `carries_issue`, `carries_issue_of_token`.
- `carries_begin`, `carries_loggedIn`, `carries_resume`; `Traffic.authorizations_of_asks`.
- `Traffic.session_does_cases`: what a deed can make of the session.
- `Traffic.TakesUp`, `Traffic.takesUp_of_token`.
- `Traffic.requests_follow_session`, with a request that follows a renewal.
-/

namespace Shoreline

open Http

/-- The header by the credentials in the address of the server, if there are any. -/
def Settings.basic? (s : Settings) : Option String := Api.basic? (trimSlashes s.baseAddress)

/-- An operation that asks in the name of a user, if one is logged in. -/
def Pending.usesToken : Pending → Bool
  | logIn | signUp _ | signOut | refreshSession _ | resend _ _ => false
  | _ => true

namespace Client

/-! ## Steps -/

/-- The header by a token that a request of an operation should have now. -/
def header (c : Client) (p : Pending) : Option String :=
  if p.usesToken then c.token.map Request.bearer else none

/-- If something was asked, then with the headers that belong to the client as it is by then. -/
def Carries (reached : Client × Step) : Prop :=
  ∀ sent p, reached.2 = .ask sent p →
    sent.authorizations = reached.1.settings.basic?.toList ++ (reached.1.header p).toList

theorem carries_done (d : Client) (a : Answer) : Carries (d, .done a) := by
  intro sent p h
  cases h

theorem carries_step (e : Ended) : Carries e.step := carries_done e.1 e.2

/-- A request made with the token of the client carries it, if it can be sent. -/
theorem carries_issue (c : Client) {r : Request} (asks : Api.Addresses c.base r) {p : Pending}
    (h : r.token.map Request.bearer = c.header p) : Carries (c.issue r p) := by
  cases hsent : r.send? with
  | ok sent =>
    rw [c.issue_of_sent p hsent]
    rintro _ _ ⟨⟩
    rw [Api.authorizations_of_send? asks hsent, h]
    rfl
  | error fault =>
    rw [c.issue_of_unsent p hsent]
    exact carries_step _

/-- A request made with the token of the session carries it. -/
theorem carries_issue_of_token {c : Client} {token : String} (held : c.token = some token) {r : Request}
    (asks : Api.Addresses c.base r) (hr : r.token = some token) {p : Pending} (hp : p.usesToken = true) :
    Carries (c.issue r p) := by
  refine c.carries_issue asks ?_
  rw [hr, header, if_pos hp, held]

/-- An operation that needs a token asks with it. -/
theorem carries_withToken (c : Client) (answer : Failure → Answer) {r : String → Request} {p : Pending}
    (asks : ∀ token, Api.Addresses c.base (r token)) (hr : ∀ token, (r token).token = some token)
    (hp : p.usesToken = true) : Carries (c.withToken answer r p) := by
  unfold withToken
  split
  · next token htoken => exact carries_issue_of_token htoken (asks token) (hr token) hp
  · exact carries_done _ _

/-- A fetch asks with the token if there is one. -/
theorem carries_beginFetch (c : Client) (launched : Feed × Option (Ticket × Position)) :
    Carries (c.beginFetch launched) := by
  unfold beginFetch
  dsimp only
  split
  · exact carries_issue _ (Api.addresses_nearby _ _ _ _) rfl
  · exact carries_done _ _

/-- **Every operation begins with the token of the session that is held.** -/
theorem carries_begin (c : Client) (op : Operation) : Carries (c.begin op) := by
  -- each operation has requests of its own, so there is a case for each
  cases op with
  | start =>
    show Carries c.beginStart
    unfold beginStart
    split
    · next token htoken =>
      exact carries_issue_of_token htoken (Api.Errand.addresses c.base token .favorites) rfl rfl
    · exact carries_done _ _
  | logIn email password =>
    show Carries (c.beginLogIn email password)
    unfold beginLogIn
    split
    · next form _ => exact c.carries_issue (Api.Errand.addresses c.base "" (.logIn form)) rfl
    · exact carries_done _ _
  | signUp name email password =>
    show Carries (c.beginSignUp name email password)
    unfold beginSignUp
    split
    · next form _ => exact c.carries_issue (Api.Errand.addresses c.base "" (.signUp form)) rfl
    · exact carries_done _ _
  | signOut =>
    show Carries c.beginSignOut
    unfold beginSignOut
    split
    · next s _ =>
      exact c.dropSession.carries_issue (Api.Errand.addresses c.base "" (.logOut s.refreshToken)) rfl
    · exact carries_done _ _
  | refreshSession =>
    show Carries c.beginRefresh
    unfold beginRefresh
    split
    · next s _ => exact c.carries_issue (Api.Errand.addresses c.base "" (.refresh s.refreshToken)) rfl
    · exact carries_done _ _
  | currentUser =>
    exact c.carries_withToken _ (fun token => Api.Errand.addresses c.base token .currentUser)
      (fun _ => rfl) rfl
  | locate l => exact c.carries_beginFetch _
  | refetch => exact c.carries_beginFetch _
  | toggle id =>
    show Carries (c.beginToggle id)
    unfold beginToggle
    split
    · next token htoken =>
      exact carries_issue_of_token htoken (Api.Errand.addresses c.base token (.toggle id)) rfl rfl
    · split <;> exact carries_done _ _
  | check id =>
    show Carries (c.beginCheck id)
    unfold beginCheck
    split
    · next token htoken =>
      exact carries_issue_of_token htoken (Api.Errand.addresses c.base token (.check id)) rfl rfl
    · exact carries_done _ _
  | book view offset target now =>
    show Carries (c.beginBooking view offset target now)
    unfold beginBooking
    split
    · exact carries_done _ _
    · next token htoken =>
      split
      · next b _ =>
        exact carries_issue_of_token htoken
          (Api.Errand.addresses c.base token (.reserve b.beachId b.wish)) rfl rfl
      · exact carries_done _ _
  | reservations =>
    exact c.carries_withToken _ (fun token => Api.Errand.addresses c.base token .reservations)
      (fun _ => rfl) rfl
  | cancelVisit v =>
    show Carries (c.beginCancelVisit v)
    unfold beginCancelVisit
    split
    · next reservationId beachId _ _ =>
      exact c.carries_withToken _
        (fun token => Api.Errand.addresses c.base token (.cancel beachId reservationId)) (fun _ => rfl) rfl
    · exact carries_step _
  | resend email now =>
    show Carries (c.beginResend email now)
    unfold beginResend
    dsimp only
    split
    · exact carries_done _ _
    · exact c.carries_issue (Api.Errand.addresses c.base "" (.resendVerification (Text.trim email))) rfl
  | registerDevice device =>
    show Carries (c.beginRegister device)
    unfold beginRegister
    dsimp only
    split
    · exact carries_done _ _
    · exact c.carries_withToken _
        (fun token => Api.Errand.addresses c.base token (.registerDevice (Text.trim device))) (fun _ => rfl) rfl
  | setNotifications enabled =>
    exact c.carries_withToken _ (fun token => Api.Errand.addresses c.base token (.setNotifications enabled))
      (fun _ => rfl) rfl

/-- A log-in asks for the favorites with the token of the session that it keeps. -/
theorem carries_loggedIn (c : Client) (grant : LoginGrant) (now : Int) :
    Carries (c.loggedIn grant now) := by
  unfold loggedIn
  dsimp only
  refine carries_issue _ (Api.Errand.addresses _ (Session.ofGrant grant now).accessToken .favorites) ?_
  rw [header, token, keepSession_session]
  rfl

/-- No reply but that to a log-in makes the client ask again. -/
theorem carries_resume (c : Client) (p : Pending) (r : Reply) (now : Int) :
    Carries (c.resume p r now) := by
  cases hread : p.read r with
  | error e =>
    rw [resume_of_error hread]
    exact carries_step _
  | ok payload =>
    rw [resume_of_ok hread]
    by_cases hp : p = .logIn
    · subst hp
      rw [succeed_logIn c payload now]
      exact c.carries_loggedIn payload now
    · obtain ⟨a, hdone⟩ := c.done_of_succeed now hp payload
      rw [hdone]
      exact carries_done _ a

end Client

namespace Traffic

/-! ## Requests -/

/-- **A request carries the token of the session that is held when it is sent**, or no token if it is not
made in the name of a user or none is logged in. -/
theorem authorizations_of_asks {t : Traffic} {e : Event} {sent : Sent} {p : Pending}
    (h : t.Asks sent p e) :
    sent.authorizations = t.client.settings.basic?.toList ++ ((t.after e).client.header p).toList := by
  rw [← settings_after t e]
  cases e with
  | begin op =>
    rw [client_begin]
    exact t.client.carries_begin op sent p h
  | reply i r now =>
    obtain ⟨w, hw, hasked⟩ := h
    rw [client_reply hw]
    exact t.client.carries_resume w.pending r now sent p hasked

/-! ## Sessions -/

/-- What a deed can make of the session: it stays, it is forgotten, or a log-in or a renewal completes. -/
theorem session_does_cases (t : Traffic) (d : Deed) :
    (t.does d).client.session = t.client.session ∨ (t.does d).client.session = none ∨
      ∃ e, d = .event e ∧ (t.LogsIn e ∨ t.Renews e) := by
  cases d with
  | touch k => exact .inl (t.client.frame_touch k).session
  | event e =>
    show (t.after e).client.session = _ ∨ (t.after e).client.session = none ∨ _
    cases e with
    | begin op =>
      rw [client_begin]
      by_cases hout : op = .signOut
      · subst hout
        exact .inr (.inl t.client.frame_begin_signOut.session)
      · exact .inl (t.client.frame_begin hout).session
    | reply i r now =>
      cases hw : t.waiting[i]? with
      | none =>
        rw [after_reply_missing hw]
        exact .inl rfl
      | some w =>
        rw [client_reply hw]
        cases hread : w.pending.read r with
        | error failure =>
          rw [Client.resume_of_error hread]
          exact .inl (t.client.frame_fail w.pending failure).session
        | ok payload =>
          obtain ⟨p, under⟩ := w
          by_cases hgrants : p.grants = false
          · exact .inl (t.client.frame_resume hgrants r now).session
          · refine .inr (.inr ⟨_, rfl, ?_⟩)
            cases p with
            | logIn => exact .inl ⟨_, payload, hw, rfl, hread⟩
            | refreshSession s => exact .inr ⟨s, _, payload, hw, rfl, hread⟩
            | _ => exact absurd rfl hgrants

/-- With this deed a log-in or a renewal brings a session with a token. -/
def TakesUp (t : Traffic) (token : String) (d : Deed) : Prop :=
  (∃ e, d = .event e ∧ (t.LogsIn e ∨ t.Renews e)) ∧ (t.does d).client.token = some token

theorem doesAll_concat (t : Traffic) (ds : List Deed) (d : Deed) :
    t.doesAll (ds ++ [d]) = (t.doesAll ds).does d := by
  unfold doesAll
  rw [List.foldl_append]
  rfl

/-- **A token that the session has got was taken up on the way.** -/
theorem takesUp_of_token {t : Traffic} {token : String} (before : t.client.token ≠ some token)
    {ds : List Deed} (after : (t.doesAll ds).client.token = some token) :
    ∃ earlier d later, ds = earlier ++ d :: later ∧ (t.doesAll earlier).TakesUp token d := by
  -- by induction on the deeds: the first after which the session has the token takes it up
  induction ds generalizing t with
  | nil => exact absurd after before
  | cons d ds ih =>
    by_cases hnext : (t.does d).client.token = some token
    · refine ⟨[], d, ds, rfl, ?_, hnext⟩
      rcases t.session_does_cases d with hsame | hgone | hgranted
      · rw [Client.token, hsame] at hnext
        exact absurd hnext before
      · rw [Client.token, hgone] at hnext
        cases hnext
      · exact hgranted
    · obtain ⟨earlier, d', later, rfl, htakes⟩ := ih hnext after
      exact ⟨d :: earlier, d', later, rfl, htakes⟩

/-- **Requests follow the session.** A client is opened on any store and used in any way, and replies
arrive in any order. What a request carries is the header by the credentials in the address of the server,
if there are any, and behind it, if it is made in the name of a user, the token of the session that is held
when it is sent. So where that address holds no credentials, a request with a header carries the token of
the session that is held; while none is held no request carries one; and while one is held every request
that is made in the name of a user carries its token. Wherever the server is, once the session no longer has
a token, whether it was forgotten or replaced, no later request carries it unless a log-in or a renewal has
brought a session with the same token. -/
theorem requests_follow_session (settings : Settings) (store : Store) (ds : List Deed) :
    (∀ e sent p, ((opened settings store).doesAll ds).Asks sent p e →
      sent.authorizations = settings.basic?.toList ++
        if p.usesToken then
          ((((opened settings store).doesAll ds).after e).client.session.map
            fun s => Request.bearer s.accessToken).toList
        else []) ∧
    (settings.basic? = none → ∀ e sent p, ((opened settings store).doesAll ds).Asks sent p e →
      (∀ header, sent.authorization = some header →
        ∃ s, (((opened settings store).doesAll ds).after e).client.session = some s ∧
          header = Request.bearer s.accessToken) ∧
      ((((opened settings store).doesAll ds).after e).client.session = none →
        sent.authorization = none) ∧
      ∀ s, (((opened settings store).doesAll ds).after e).client.session = some s →
        p.usesToken = true → sent.authorization = some (Request.bearer s.accessToken)) ∧
    ∀ token, ((opened settings store).doesAll ds).client.token ≠ some token →
      ∀ later e sent p, (((opened settings store).doesAll ds).doesAll later).Asks sent p e →
        Request.bearer token ∈ sent.authorizations →
        ∃ earlier d rest, later ++ [.event e] = earlier ++ d :: rest ∧
          (((opened settings store).doesAll ds).doesAll earlier).TakesUp token d := by
  have hsettings : ((opened settings store).doesAll ds).client.settings = settings :=
    settings_doesAll _ ds
  generalize (opened settings store).doesAll ds = t at hsettings
  have hcarries : ∀ e sent p, t.Asks sent p e →
      sent.authorizations = settings.basic?.toList ++ ((t.after e).client.header p).toList := by
    intro e sent p hasks
    rw [authorizations_of_asks hasks, hsettings]
  refine ⟨?_, ?_, ?_⟩
  · intro e sent p hasks
    rw [hcarries e sent p hasks]
    unfold Client.header Client.token
    rw [Option.map_map]
    split <;> rfl
  · intro hplain e sent p hasks
    have hheader : sent.authorization = (t.after e).client.header p := by
      have hall := hcarries e sent p hasks
      rw [hplain] at hall
      exact Sent.authorization_of_toList hall
    unfold Client.header Client.token at hheader
    refine ⟨?_, ?_, ?_⟩
    · intro header hsome
      rw [hsome] at hheader
      split at hheader
      · obtain ⟨token, htoken, rfl⟩ := Option.map_eq_some_iff.mp hheader.symm
        obtain ⟨s, hs, rfl⟩ := Option.map_eq_some_iff.mp htoken
        exact ⟨s, hs, rfl⟩
      · cases hheader
    · intro hnone
      rw [hheader, hnone]
      split <;> rfl
    · intro s hs hp
      rw [hheader, if_pos hp, hs]
      rfl
  · intro token hnot later e sent p hasks hmem
    rw [authorizations_of_asks hasks] at hmem
    have htoken : ((t.doesAll later).does (.event e)).client.token = some token := by
      rcases List.mem_append.mp hmem with hbasic | hbearer
      · exact absurd (Option.mem_toList.mp hbasic) (Api.bearer_not_mem_basic? _ token)
      · have hheader : ((t.doesAll later).after e).client.header p = some (Request.bearer token) :=
          Option.mem_toList.mp hbearer
        unfold Client.header at hheader
        split at hheader
        · obtain ⟨held, hheld, hsame⟩ := Option.map_eq_some_iff.mp hheader
          rw [← Request.bearer_injective hsame]
          exact hheld
        · cases hheader
    rw [← doesAll_concat] at htoken
    exact takesUp_of_token hnot htoken

/-- The header of the request that a step makes, if it makes one in the name of a user. -/
def headerInName? : Step → Option String
  | .ask sent p => if p.usesToken then sent.authorization else none
  | .done _ => none

/-- A user renews the session, and the grant arrives. -/
def renewedOnce : List Deed := [.event (.begin .refreshSession), .event (.reply 0 renewal 2)]

/-- After the renewal a favorite is toggled with the new token, which the session did not have at first:
it was taken up on the way. -/
theorem requests_follow_session_renewed :
    sampleSettings.basic? = none ∧
    ∃ sent p, ((opened sampleSettings sampleStore).doesAll renewedOnce).Asks sent p
        (.begin (.toggle "7")) ∧
      p.usesToken = true ∧ sent.authorization = some (Request.bearer "b") ∧
      (opened sampleSettings sampleStore).client.token ≠ some "b" ∧
      ∃ earlier d rest, renewedOnce ++ [.event (.begin (.toggle "7"))] = earlier ++ d :: rest ∧
        ((opened sampleSettings sampleStore).doesAll earlier).TakesUp "b" d := by
  rw [opened_sampleStore]
  have hplain : sampleSettings.basic? = none := by decide +kernel
  have hheader : headerInName? ((ofUser.doesAll renewedOnce).client.begin (.toggle "7")).2 =
      some (Request.bearer "b") := by decide +kernel
  have hheld : ((ofUser.doesAll renewedOnce).after (.begin (.toggle "7"))).client.session =
      some renewedSession := by decide +kernel
  have hnot : ofUser.client.token ≠ some "b" := by decide
  cases hstep : ((ofUser.doesAll renewedOnce).client.begin (.toggle "7")).2 with
  | done a =>
    rw [hstep] at hheader
    cases hheader
  | ask sent p =>
    have hp : p.usesToken = true := by
      rw [hstep, headerInName?] at hheader
      split at hheader
      · assumption
      · cases hheader
    obtain ⟨all, now, -⟩ := requests_follow_session sampleSettings sampleStore renewedOnce
    obtain ⟨-, -, later⟩ := requests_follow_session sampleSettings sampleStore []
    rw [opened_sampleStore] at all now later
    have hcarries : sent.authorization = some (Request.bearer "b") :=
      (now hplain (.begin (.toggle "7")) sent p hstep).2.2 renewedSession hheld hp
    have hmem : Request.bearer "b" ∈ sent.authorizations := by
      rw [all (.begin (.toggle "7")) sent p hstep, if_pos hp, hheld, hplain]
      exact List.mem_singleton_self _
    exact ⟨hplain, sent, p, hstep, hp, hcarries, hnot,
      later "b" hnot renewedOnce (.begin (.toggle "7")) sent p hstep hmem⟩

end Traffic

end Shoreline
