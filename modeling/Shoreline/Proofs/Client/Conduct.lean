import Shoreline.Proofs.Client.Asks

/-!
# `Shoreline.Proofs.Client.Conduct` — an operation that runs alone

While nothing else runs, an operation is `Client.perform` in a world that answers its requests. The world
is arbitrary: what it answers may depend on all that was asked and answered before. `Client.conduct` runs
an operation in a world and also tells what was sent and what came back.

An operation that runs alone asks nothing and has ended when it has begun; or it asks once and ends with
the reply; or it is a log-in that succeeds and asks for the favorites. Everything about operations that
run alone is proved by cases on `Conducts`, so that no other proof opens `perform`.

## Contents
- `World`, `Client.conduct`, with `conduct_done`, `conduct_ask`, `await_done`, `await_ask`,
  `conduct_answered`, `conduct_unsent`.
- `begin_ask_cases`: the client that asks, and what it waits for.
- `Client.Conducts` and `Client.conducts`.
-/

namespace Shoreline

open Http

/-- What was sent, with what came back, in order. -/
abbrev Log := List (Sent × Reply)

/-- What a client finds outside: a server that answers, knowing all that was asked before, and a clock in
milliseconds. -/
structure World where
  reply : Log → Sent → Reply
  clock : Log → Int

namespace World

/-- Send a request, and note it with the reply. -/
def exchange (w : World) (sent : Sent) : StateM Log Reply := do
  let log ← get
  let reply := w.reply log sent
  set (log ++ [(sent, reply)])
  return reply

/-- Look at the clock. -/
def time (w : World) : StateM Log Int := do
  let log ← get
  return w.clock log

theorem run_exchange (w : World) (sent : Sent) (log : Log) :
    (w.exchange sent).run log = pure (w.reply log sent, log ++ [(sent, w.reply log sent)]) := rfl

theorem run_time (w : World) (log : Log) : w.time.run log = pure (w.clock log, log) := rfl

end World

namespace Client

/-- Run an operation from its beginning to its end while nothing else runs. -/
def conduct (c : Client) (w : World) (op : Operation) : Ended × Log :=
  (c.perform w.exchange w.time op).run []

theorem conduct_done {c d : Client} {op : Operation} {a : Answer} (h : c.begin op = (d, .done a))
    (w : World) : c.conduct w op = ((d, a), []) := by
  unfold conduct perform
  rw [h]
  rfl

theorem conduct_ask {c d : Client} {op : Operation} {sent : Sent} {p : Pending}
    (h : c.begin op = (d, .ask sent p)) (w : World) :
    c.conduct w op = (d.await w.exchange w.time sent p).run [] := by
  unfold conduct perform
  rw [h]

section Await

variable {c d : Client} {w : World} {sent : Sent} {p : Pending} {log : Log}

/-- An operation that has ended with its reply asks no more. -/
theorem await_done {a : Answer}
    (h : c.resume p (w.reply log sent) (w.clock (log ++ [(sent, w.reply log sent)])) =
      (d, .done a)) :
    (c.await w.exchange w.time sent p).run log = ((d, a), log ++ [(sent, w.reply log sent)]) := by
  rw [await]
  simp only [StateT.run_bind, World.run_exchange, World.run_time, pure_bind]
  split
  · next hreached =>
    cases h.symm.trans hreached
    rfl
  · next hreached => cases h.symm.trans hreached

/-- An operation that asks again waits for the next reply. -/
theorem await_ask {next : Sent} {q : Pending}
    (h : c.resume p (w.reply log sent) (w.clock (log ++ [(sent, w.reply log sent)])) =
      (d, .ask next q)) :
    (c.await w.exchange w.time sent p).run log =
      (d.await w.exchange w.time next q).run (log ++ [(sent, w.reply log sent)]) := by
  rw [await]
  simp only [StateT.run_bind, World.run_exchange, World.run_time, pure_bind]
  split
  · next hreached => cases h.symm.trans hreached
  · next hreached =>
    cases h.symm.trans hreached
    rfl

end Await

/-- An operation that has ended with the first reply has asked just once. -/
theorem conduct_answered {c d e : Client} {op : Operation} {sent : Sent} {p : Pending} {a : Answer}
    (h : c.begin op = (d, .ask sent p)) (w : World)
    (hreply : d.resume p (w.reply [] sent) (w.clock [(sent, w.reply [] sent)]) = (e, .done a)) :
    c.conduct w op = ((e, a), [(sent, w.reply [] sent)]) := by
  rw [conduct_ask h]
  exact await_done hreply

/-- An operation whose request cannot be sent fails. -/
theorem conduct_unsent {c d : Client} {op : Operation} {r : Request} {p : Pending} {fault : TransportFault}
    (h : c.begin op = d.issue r p) (hsend : r.send? = .error fault) (w : World) :
    c.conduct w op = (d.fail p (.transport fault.message), []) :=
  conduct_done (h.trans (d.issue_of_unsent p hsend)) w

/-- An operation that asks does so with an unchanged client, unless it signs out or fetches. -/
theorem begin_ask_cases {c d : Client} {op : Operation} {sent : Sent} {p : Pending}
    (h : c.begin op = (d, .ask sent p)) :
    (d = c ∧ Awaits c op p) ∨ p = .signOut ∨ ∃ ticket, p = .feed ticket := by
  have hask : (c.begin op).2 = .ask sent p := congrArg Prod.snd h
  rcases awaits_of_ask hask with hwait | hout | hfeed
  · left
    have hb := c.begins op
    rw [h] at hb
    generalize hreached : (d, Step.ask sent p) = reached at hb
    cases hb with
    | asked hwait' r =>
      rcases c.issue_cases r _ with ⟨sent', hissued⟩ | ⟨message, hfailed⟩
      · rw [hissued] at hreached
        cases hreached
        exact ⟨rfl, hwait⟩
      · rw [hfailed] at hreached
        cases hreached
    | signOut _ r => cases hwait
    | locate l => cases hwait
    | refetch => cases hwait
    | _ => cases hreached
  · exact .inr (.inl hout)
  · exact .inr (.inr hfeed)

/-- Only a log-in waits as one. -/
theorem logIn_of_begin_ask {c d : Client} {op : Operation} {sent : Sent}
    (h : c.begin op = (d, .ask sent .logIn)) : ∃ email password, op = .logIn email password := by
  rcases begin_ask_cases h with ⟨_, hwait⟩ | hout | ⟨ticket, hfeed⟩
  · cases hwait with
    | logIn email password => exact ⟨email, password, rfl⟩
  · cases hout
  · cases hfeed

/-- A log-in has succeeded, whatever becomes of the favorites. -/
theorem resume_logInFavorites (c : Client) (s : Session) (r : Reply) (now : Int) :
    ∃ d, c.resume (.logInFavorites s) r now = (d, .done (.session (.ok s))) := by
  cases hread : (Pending.logInFavorites s).read r with
  | ok beaches => exact ⟨_, resume_of_ok hread now⟩
  | error e => exact ⟨_, resume_of_error hread now⟩

/-- How an operation that runs alone can end, and what was exchanged by then. -/
inductive Conducts (c : Client) (op : Operation) : Ended → Log → Prop
  /-- It asked nothing. -/
  | atOnce {d : Client} {a : Answer} (h : c.begin op = (d, .done a)) : Conducts c op (d, a) []
  /-- It asked once, and the reply has ended it. -/
  | answered {d e : Client} {sent : Sent} {p : Pending} {r : Reply} {now : Int} {a : Answer}
      (h : c.begin op = (d, .ask sent p)) (hreply : d.resume p r now = (e, .done a)) :
      Conducts c op (e, a) [(sent, r)]
  /-- A log-in has succeeded and asked for the favorites. -/
  | twice {e : Client} {email password : String} (h : op = .logIn email password) (s : Session)
      (log : Log) : Conducts c op (e, .session (.ok s)) log

/-- **Every operation that runs alone ends in one of these ways.** -/
theorem conducts (c : Client) (w : World) (op : Operation) :
    Conducts c op (c.conduct w op).1 (c.conduct w op).2 := by
  rcases hbegin : c.begin op with ⟨d, a | ⟨sent, p⟩⟩
  · rw [conduct_done hbegin]
    exact .atOnce hbegin
  · rcases hreply : d.resume p (w.reply [] sent) (w.clock [(sent, w.reply [] sent)]) with
      ⟨e, a | ⟨next, q⟩⟩
    · rw [conduct_answered hbegin w hreply]
      exact .answered hbegin hreply
    · -- only a log-in asks again, and then it has succeeded
      obtain ⟨rfl, s, rfl⟩ := logIn_of_ask (congrArg Prod.snd hreply)
      obtain ⟨email, password, rfl⟩ := logIn_of_begin_ask hbegin
      obtain ⟨f, hended⟩ := e.resume_logInFavorites s (w.reply [(sent, w.reply [] sent)] next)
        (w.clock ([(sent, w.reply [] sent)] ++ [(next, w.reply [(sent, w.reply [] sent)] next)]))
      rw [conduct_ask hbegin, await_ask hreply, List.nil_append, await_done hended]
      exact .twice rfl s _

end Client

end Shoreline
