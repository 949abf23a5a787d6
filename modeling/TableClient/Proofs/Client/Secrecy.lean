import TableClient.Proofs.Client.Transcript

/-!
# Where the Access Key Goes

The access key of a configuration reaches the service, and nothing else.

Two sessions are compared that make the same calls under configurations which
differ in the key alone. The services need not be the same either, and may
well look at the key that they are sent: all that is asked of them is that
they give the same replies, as far as both are asked. Then nothing that a
session shows tells the keys apart: not the results and the reasons of
failures, not the log, not the addresses and bodies of the requests. A key
stands in the requests of its own session as it is, and in none of the other.

What makes this work is that a call depends on its configuration in two
places. `course` says so once: a call either settles by itself, with no key
and no service, or it sends one request and makes its result of the reply. The
request without its key, the events and what the result is made of are the
same for all keys. The session adds an induction over the calls, in which each
request takes one reply off either side.

## Main definitions

* `Config.withKey`, `Request.withKey`, `Client.Outcome.withKey`: The same with
  another key.
* `Agree`: Replies that are the same as far as both sides go.
* `Call.Course`: Everything a call can do, by the key and by what answers.

## Theorems

* `course`: A call does one of the things it can do.
* `key_of_mem`: A request carries the key of the configuration.
* `session_withKey`: Another key leads to the same outcomes with that key.
* `session_congr`: Another service with the same replies leads to the same.
* `session_secret`: What two sessions with different keys have in common.
-/

namespace TableClient

open Client (Event Outcome)

/-- The configuration with another key. -/
def Config.withKey (config : Config) (key : String) : Config :=
  { config with accessKey := key }

/-- The request with another key. -/
def Request.withKey (key : String) (request : Request) : Request :=
  { request with key }

/-- The outcome with another key in all its requests. -/
def Client.Outcome.withKey {ε α : Type} (key : String) (outcome : Outcome ε α) : Outcome ε α :=
  { outcome with requests := outcome.requests.map (Request.withKey key) }

/-- Two lists of replies have the same reply in every place that both have. -/
def Agree (first second : List (Except Transport.Error Json)) : Prop :=
  ∀ pair ∈ first.zip second, pair.1 = pair.2

theorem agree_cons {reply reply' : Except Transport.Error Json}
    {rest rest' : List (Except Transport.Error Json)} :
    Agree (reply :: rest) (reply' :: rest') ↔ reply = reply' ∧ Agree rest rest' := by
  unfold Agree
  rw [List.zip_cons_cons, List.forall_mem_cons]

theorem agree_self (replies : List (Except Transport.Error Json)) : Agree replies replies := by
  induction replies with
  | nil => exact fun pair hmem => absurd hmem List.not_mem_nil
  | cons reply rest ih => exact agree_cons.2 ⟨rfl, ih⟩

namespace Call

/-- Everything a call can do under a configuration with any key, whatever
    answers. -/
inductive Course (config : Config) (call : Call) : Prop where
  /-- It settles by itself. -/
  | settled (result : Except Command.Error (List Json)) (events : List Event) :
    (∀ key handler, call.perform (config.withKey key) handler = ⟨result, [], events⟩) →
    Course config call
  /-- It sends one request and makes its result of the reply. -/
  | asked (request : Request) (events : List Event)
    (read : Except Transport.Error Json → Except Command.Error (List Json)) :
    (∀ key handler, call.perform (config.withKey key) handler
      = ⟨read (handler (request.withKey key)), [request.withKey key], events⟩) →
    Course config call

/-- The course of an operation. Of the three things it can do, two leave no
    room for a key. -/
theorem course_operation (config : Config) (op : Operation) : Course config (.operation op) := by
  cases op.course with
  | sent _ hperform =>
      -- The result is the one for a handler that has nothing but this reply.
      refine .asked (op.request config) ((op.request config).announced (op.span config))
        (fun reply => ((Client.send config (fun _ => reply) op.table op.action
          { selector := op.formula? } op.values).result).mapError .client) fun key handler => ?_
      rw [perform, hperform]
      rfl
  | stopped fault _ hperform =>
      refine .settled (.error (.client (.rows fault))) [] fun key handler => ?_
      rw [perform, hperform]
      rfl
  | refused selector _ _ _ hperform =>
      refine .settled (.error (.client (.unbalancedSelector selector)))
        [.rejected op.table selector] fun key handler => ?_
      rw [perform, hperform]
      rfl

/-- A find has the course of the operation that it leads to, if there is one. -/
theorem course (config : Config) (call : Call) : Course config call := by
  cases call with
  | operation op => exact course_operation config op
  | find f =>
      cases hselector : f.selector? with
      | error fault =>
          refine .settled (.error fault) [] fun key handler => ?_
          rw [perform, Command.Find.perform, hselector]
      | ok selector =>
          have hsame : ∀ key handler, (find f).perform (config.withKey key) handler
              = (operation (Command.Find.operation f.table selector)).perform
                  (config.withKey key) handler := by
            intro key handler
            change f.perform (config.withKey key) handler = _
            rw [Command.Find.perform, hselector]
            rfl
          cases course_operation config (Command.Find.operation f.table selector) with
          | settled result events h =>
              exact .settled result events fun key handler => (hsame key handler).trans (h key handler)
          | asked request events read h =>
              exact .asked request events read fun key handler =>
                (hsame key handler).trans (h key handler)

/-- A request carries the key of the configuration that it was made under. -/
theorem key_of_mem {config : Config} {key : String} {handler : Handler} {call : Call}
    {request : Request} (h : request ∈ (call.perform (config.withKey key) handler).requests) :
    request.key = key := by
  cases call.course config with
  | settled result events hperform =>
      rw [hperform] at h
      cases h
  | asked asked events read hperform =>
      rw [hperform, List.mem_singleton] at h
      rw [h]
      rfl

/-- All requests of a session carry the key that it was made under. -/
theorem key_of_received {σ : Type} {config : Config} {key : String} {service : Service σ}
    {state : σ} {calls : List Call} {request : Request}
    (h : request ∈ service.received (perform (config.withKey key)) state calls) :
    request.key = key := by
  have hkeys : ∀ outcome ∈ (service.session (perform (config.withKey key)) state calls).1,
      ∀ request ∈ outcome.requests, request.key = key :=
    service.forall_mem_session _ (fun handler call request hmem => key_of_mem hmem) state calls
  rw [Service.received_eq] at h
  rcases List.mem_flatMap.1 h with ⟨outcome, houtcome, hrequest⟩
  exact hkeys outcome houtcome request hrequest

/-- Another key leads to the same outcomes, with that key in the requests, as
    far as the services give the same replies. -/
theorem session_withKey {σ τ : Type} (config : Config) (first second : String)
    (service : Service σ) (other : Service τ) (state : σ) (state' : τ) (calls : List Call)
    (hreplies : Agree (service.answered (perform (config.withKey first)) state calls)
      (other.answered (perform (config.withKey second)) state' calls)) :
    (other.session (perform (config.withKey second)) state' calls).1
      = (service.session (perform (config.withKey first)) state calls).1.map
          (Outcome.withKey second) := by
  induction calls generalizing state state' with
  | nil => rfl
  | cons call rest ih =>
      rw [Service.answered_cons, Service.answered_cons] at hreplies
      cases call.course config with
      | settled result events hperform =>
          -- Neither service is asked, and both stay in their states.
          simp only [hperform] at hreplies
          have hrest := ih state state' hreplies
          simp only [Service.session, hperform, List.map_cons]
          exact congrArg (_ :: ·) hrest
      | asked request events read hperform =>
          -- Each service takes one request and gives its first reply to it.
          simp only [hperform] at hreplies
          rcases agree_cons.1 hreplies with ⟨hreply, hagree⟩
          have hrest := ih (service state (request.withKey first)).2
            (other state' (request.withKey second)).2 hagree
          have hread : read (other.handler state' (request.withKey second))
              = read (service.handler state (request.withKey first)) := congrArg read hreply.symm
          simp only [Service.session, hperform, List.map_cons, hread]
          exact congrArg (_ :: ·) hrest

/-- A session depends on its service by the replies only: where another service
    gives the same ones, every call has the same outcome. -/
theorem session_congr {σ τ : Type} (config : Config) (service : Service σ) (other : Service τ)
    (state : σ) (state' : τ) (calls : List Call)
    (hreplies : Agree (service.answered (perform config) state calls)
      (other.answered (perform config) state' calls)) :
    (other.session (perform config) state' calls).1
      = (service.session (perform config) state calls).1 := by
  have hsession := session_withKey config config.accessKey config.accessKey service other state
    state' calls hreplies
  refine hsession.trans (map_eq_self_iff.2 ?_)
  -- All requests carry that key already, so no outcome is changed by it.
  refine service.forall_mem_session (perform config) (fun handler call => ?_) state calls
  have hrequests : (call.perform config handler).requests.map (Request.withKey config.accessKey)
      = (call.perform config handler).requests := by
    refine map_eq_self_iff.2 fun request hmem => ?_
    have hkey : request.key = config.accessKey := key_of_mem hmem
    rw [Request.withKey, ← hkey]
  rw [Outcome.withKey, hrequests]

/-- The key of a configuration is in no result, no reason of a failure, no event
    and no address or body of a request. Two sessions make the same calls under
    configurations that differ in the key alone, and their services give the
    same replies. Then both have the same results and the same log, and send the
    same requests but for the key, which is in each session the key of its own
    configuration. -/
theorem session_secret {σ τ : Type} (config : Config) (first second : String)
    (service : Service σ) (other : Service τ) (state : σ) (state' : τ) (calls : List Call)
    (hreplies : Agree (service.answered (perform (config.withKey first)) state calls)
      (other.answered (perform (config.withKey second)) state' calls)) :
    (service.session (perform (config.withKey first)) state calls).1.map (·.result)
      = (other.session (perform (config.withKey second)) state' calls).1.map (·.result) ∧
    (service.session (perform (config.withKey first)) state calls).1.map (·.events)
      = (other.session (perform (config.withKey second)) state' calls).1.map (·.events) ∧
    (service.session (perform (config.withKey first)) state calls).1.map
        (fun outcome => outcome.requests.map fun request => (request.url, request.body))
      = (other.session (perform (config.withKey second)) state' calls).1.map
        (fun outcome => outcome.requests.map fun request => (request.url, request.body)) ∧
    (∀ request ∈ service.received (perform (config.withKey first)) state calls,
      request.key = first) ∧
    ∀ request ∈ other.received (perform (config.withKey second)) state' calls,
      request.key = second := by
  have hsession := session_withKey config first second service other state state' calls hreplies
  refine ⟨?_, ?_, ?_, fun request hmem => key_of_received hmem,
    fun request hmem => key_of_received hmem⟩
  · rw [hsession, List.map_map]
    rfl
  · rw [hsession, List.map_map]
    rfl
  · simp only [hsession, List.map_map, Function.comp_def, Outcome.withKey, Request.withKey]

/-- A service with replies laid out for it and one that counts, a request that
    fails, a refusal and a request that succeeds. -/
theorem session_secret_counting :
    Agree
      (Service.replies.answered (perform ((Config.new "app" "").withKey "one"))
        [.error (.status 400 "no"), .ok (.arr [])]
        [.operation (.readAll "T"), .find ⟨"T", some "(", none⟩, .operation (.readAll "T")])
      (Service.answered
        (fun n _ => (if n = 0 then .error (.status 400 "no") else .ok (.arr []), n + 1))
        (perform ((Config.new "app" "").withKey "two")) 0
        [.operation (.readAll "T"), .find ⟨"T", some "(", none⟩, .operation (.readAll "T")]) ∧
    (Service.replies.session (perform ((Config.new "app" "").withKey "one"))
        [.error (.status 400 "no"), .ok (.arr [])]
        [.operation (.readAll "T"), .find ⟨"T", some "(", none⟩,
          .operation (.readAll "T")]).1.map (·.events)
      = (Service.session
        (fun n _ => (if n = 0 then .error (.status 400 "no") else .ok (.arr []), n + 1))
        (perform ((Config.new "app" "").withKey "two")) 0
        [.operation (.readAll "T"), .find ⟨"T", some "(", none⟩,
          .operation (.readAll "T")]).1.map (·.events) := by
  have hagree := agree_self [.error (.status 400 "no"), .ok (.arr [])]
  refine ⟨hagree, (session_secret (Config.new "app" "") "one" "two" _ _ _ _ _ ?_).2.1⟩
  exact hagree

end Call

end TableClient
