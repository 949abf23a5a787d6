import Mathlib.Data.List.Forall2
import TableClient.Command.Basic

/-!
# Sessions

Calls on one client, one after the other, against a service that may remember.

What a single call does depends on a handler, which is a plain function from
requests to answers. A `Service` is what stands behind it over time: it has a
state, and each request gets an answer and moves the state on. So it may
answer by its state, fail now and then, or run through any sequence of replies
that was laid out for it. A session hands each call the handler that the
service is at that moment.

Whatever holds of each single call, for every handler, holds of every call in
a session; `forall₂_session` says so and leaves the state in which a call meets
the service free. The state at the end, `final_session`, is the state behind the
requests that were sent: nothing else of a session reaches the service. A
service can be made to record, and then holds at the end what it received,
which is what the calls have sent, in their order. So what is known of the
requests of each call is known of all that a service receives and answers.

## Main definitions

* `Service`: What answers requests over time.
* `Service.handler`: The handler that a service is in a state.
* `Service.after`: The state of a service behind some requests.
* `Service.recorded`: A service that keeps the requests it has received.
* `Service.replies`: A service with replies laid out for it.
* `Service.session`: What calls lead to, one after the other.
* `Service.received`: The requests that reach a service in a session.
* `Service.answers`, `Service.answered`: The replies it gives to them.
* `Call`, `Call.perform`: An operation or a find, and what it does.

## Theorems

* `after_recorded`: What a recording service has kept.
* `forall₂_session`: What holds of each call holds throughout a session.
* `map_session`: What is known of each outcome is known of all of them.
* `session_map`: Calls that do the same lead to the same session.
* `final_session`: The state at the end is known from the requests.
* `answered_cons`: The replies of a session, call by call.
* `received_eq`: A service receives the requests of the calls, in order.
* `flatMap_session`: What each outcome holds for its requests, all hold for
  what was received.
-/

namespace TableClient

/-- What answers requests one after the other. An answer may depend on all
    requests before it, by way of a state. -/
abbrev Service (σ : Type) :=
  σ → Request → Except Transport.Error Json × σ

namespace Service

variable {σ ι ε α : Type}

/-- The handler that a service is as long as its state does not change. -/
def handler (service : Service σ) (state : σ) : Handler := fun request =>
  (service state request).1

/-- The state of a service behind some requests. -/
def after (service : Service σ) (state : σ) (requests : List Request) : σ :=
  requests.foldl (fun state request => (service state request).2) state

/-- What calls lead to that are made one after the other, and the state in
    which they leave the service. -/
def session (service : Service σ) (perform : Handler → ι → Client.Outcome ε α) (state : σ) :
    List ι → List (Client.Outcome ε α) × σ
  | [] => ([], state)
  | call :: rest =>
    let outcome := perform (service.handler state) call
    let others := session service perform (service.after state outcome.requests) rest
    (outcome :: others.1, others.2)

/-- A service that answers as another one does and keeps the requests it has
    received. -/
def recorded (service : Service σ) : Service (σ × List Request) := fun state request =>
  let answer := service state.1 request
  (answer.1, (answer.2, state.2 ++ [request]))

/-- The requests that reach a service in a session, in their order. -/
def received (service : Service σ) (perform : Handler → ι → Client.Outcome ε α) (state : σ)
    (calls : List ι) : List Request :=
  (service.recorded.session perform (state, []) calls).2.2

/-- The replies of a service to some requests that reach it one after the
    other. -/
def answers (service : Service σ) (state : σ) : List Request → List (Except Transport.Error Json)
  | [] => []
  | request :: rest =>
    (service state request).1 :: answers service (service state request).2 rest

/-- The replies that a service gives in a session. -/
def answered (service : Service σ) (perform : Handler → ι → Client.Outcome ε α) (state : σ)
    (calls : List ι) : List (Except Transport.Error Json) :=
  service.answers state (service.received perform state calls)

/-- The service that gives the replies of a list, one to each request, and has
    no answer behind the last of them. -/
def replies : Service (List (Except Transport.Error Json))
  | [], _ => (.error (.unreachable ""), [])
  | reply :: rest, _ => (reply, rest)

/-- What a recording service has kept behind some requests. -/
theorem after_recorded (service : Service σ) (state : σ × List Request)
    (requests : List Request) :
    service.recorded.after state requests
      = (service.after state.1 requests, state.2 ++ requests) := by
  induction requests generalizing state with
  | nil => rw [List.append_nil]; rfl
  | cons request rest ih =>
      have hrest := ih (service.recorded state request).2
      simp only [recorded, List.append_assoc, List.singleton_append] at hrest
      exact hrest

theorem after_append (service : Service σ) (state : σ) (first second : List Request) :
    service.after state (first ++ second) = service.after (service.after state first) second :=
  List.foldl_append

variable (service : Service σ) (perform : Handler → ι → Client.Outcome ε α)

/-- What holds of each call, whatever answers it, holds of all calls of a
    session, each with its own outcome. -/
theorem forall₂_session {P : ι → Client.Outcome ε α → Prop}
    (hcall : ∀ handler call, P call (perform handler call)) (state : σ) (calls : List ι) :
    List.Forall₂ P calls (service.session perform state calls).1 := by
  -- Each call meets the service in another state, so the state is left free.
  induction calls generalizing state with
  | nil => exact .nil
  | cons call rest ih => exact .cons (hcall _ call) (ih _)

/-- What holds of the outcome of each call, whatever answers it, holds of every
    outcome of a session. -/
theorem forall_mem_session {P : Client.Outcome ε α → Prop}
    (hcall : ∀ handler call, P (perform handler call)) (state : σ) (calls : List ι) :
    ∀ outcome ∈ (service.session perform state calls).1, P outcome := by
  induction calls generalizing state with
  | nil =>
      intro outcome hmem
      exact absurd hmem List.not_mem_nil
  | cons call rest ih => exact List.forall_mem_cons.2 ⟨hcall _ call, ih _⟩

/-- What is known of the outcome of each call is known of all outcomes of a
    session, in their order. -/
theorem map_session {β : Type} {f : Client.Outcome ε α → β} {g : ι → β}
    (hcall : ∀ handler call, g call = f (perform handler call)) (state : σ) (calls : List ι) :
    (service.session perform state calls).1.map f = calls.map g := by
  have hall : List.Forall₂ (fun call outcome => g call = f outcome) calls
      (service.session perform state calls).1 := service.forall₂_session perform hcall state calls
  rw [eq_comm, ← List.forall₂_eq_eq_eq, List.forall₂_map_left_iff, List.forall₂_map_right_iff]
  exact hall

/-- Calls that do the same, whatever answers them, lead to the same outcomes and
    leave the service in the same state. -/
theorem session_map {κ : Type} {perform' : Handler → κ → Client.Outcome ε α} {f : ι → κ}
    (hcall : ∀ handler call, perform' handler (f call) = perform handler call) (state : σ)
    (calls : List ι) :
    service.session perform' state (calls.map f) = service.session perform state calls := by
  induction calls generalizing state with
  | nil => rfl
  | cons call rest ih =>
      -- The same requests were sent, so the rest starts from the same state.
      simp only [List.map_cons, session, hcall, ih]

/-- The service is left in the state behind the requests that were sent. -/
theorem final_session (state : σ) (calls : List ι) :
    (service.session perform state calls).2
      = service.after state ((service.session perform state calls).1.flatMap (·.requests)) := by
  induction calls generalizing state with
  | nil => rfl
  | cons call rest ih =>
      simp only [session, List.flatMap_cons, after_append]
      exact ih _

/-- Recording what a service receives changes no outcome. -/
theorem session_recorded (state : σ × List Request) (calls : List ι) :
    (service.recorded.session perform state calls).1
      = (service.session perform state.1 calls).1 := by
  induction calls generalizing state with
  | nil => rfl
  | cons call rest ih =>
      have hhandler : service.recorded.handler state = service.handler state.1 := rfl
      simp only [session, ih, after_recorded, hhandler]

/-- A service receives the requests of the calls, in their order. -/
theorem received_eq (state : σ) (calls : List ι) :
    service.received perform state calls
      = (service.session perform state calls).1.flatMap (·.requests) := by
  rw [received, final_session, after_recorded, session_recorded, List.nil_append]

theorem answers_append (state : σ) (first second : List Request) :
    service.answers state (first ++ second)
      = service.answers state first ++ service.answers (service.after state first) second := by
  induction first generalizing state with
  | nil => rfl
  | cons request rest ih =>
      have hafter : service.after state (request :: rest)
          = service.after (service state request).2 rest := rfl
      simp only [List.cons_append, answers, ih, hafter]

/-- The replies of a session are those to its first call and those of the rest,
    which starts behind it. -/
theorem answered_cons (state : σ) (call : ι) (rest : List ι) :
    service.answered perform state (call :: rest)
      = service.answers state (perform (service.handler state) call).requests
        ++ service.answered perform
          (service.after state (perform (service.handler state) call).requests) rest := by
  simp only [answered, received_eq, session, List.flatMap_cons, answers_append]

/-- What each outcome holds for the requests of its call, all outcomes of a
    session hold for the requests that the service received. -/
theorem flatMap_session {β : Type} {f : Client.Outcome ε α → List β} {g : Request → List β}
    (hcall : ∀ handler call,
      f (perform handler call) = (perform handler call).requests.flatMap g) (state : σ)
    (calls : List ι) :
    (service.session perform state calls).1.flatMap f
      = (service.received perform state calls).flatMap g := by
  have heach : ∀ outcome ∈ (service.session perform state calls).1,
      f outcome = outcome.requests.flatMap g := service.forall_mem_session perform hcall state calls
  rw [received_eq, List.flatMap_assoc]
  exact List.flatMap_congr heach

end Service

/-- A use of a client: an operation on a table, or a find as the command line
    has it. -/
inductive Call where
  | operation (op : Operation)
  | find (f : Command.Find)

namespace Call

/-- What a call does. Errors of operations are told as the command line tells
    them. -/
def perform (config : Config) (handler : Handler) :
    Call → Client.Outcome Command.Error (List Json)
  | .operation op =>
    let outcome := Client.perform config handler op
    { outcome with result := outcome.result.mapError .client }
  | .find f => f.perform config handler

end Call

end TableClient
