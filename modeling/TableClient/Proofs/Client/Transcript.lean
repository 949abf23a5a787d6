import TableClient.Log.Line
import TableClient.Proofs.Client.Requests

/-!
# The Log as a Transcript

What the log of a session tells of the requests that were sent in it.

Two events announce every request, its address and its body, and a third kind
warns of a selector that was refused. The announcements are made from the
request that is sent and not from what the operation was given, so the body is
the one with the properties of the configuration in it; and they are made in
front of the sending, so that a request which fails has been announced like
any other.

`transcript` writes down what the log should be, from the requests that were
sent and from the result. `events_perform` shows of a single operation that
this is what was logged, whatever answers. Since the log of a session is that
of its operations, one after the other, the announcements in it are those of
the requests that the service received, in the order in which it received
them, and the warnings are those of the refusals.

## Main definitions

* `Request.announced`, `Request.messages`: The events that announce a request,
  and what they say.
* `Operation.refusal`: The event that tells of a refusal.
* `Operation.transcript`: What the log of an operation should be.
* `Service.log`: The events of a session.
* `Client.Event.postedUrl?`: The address that an event announces.

## Theorems

* `events_perform`: The log of an operation is its transcript.
* `events_of_refused`: A refused operation logs the refusal and sends nothing.
* `events_of_unconverted`: An operation with a row that becomes no value logs
  nothing.
* `messages_transcript`, `warnings_transcript`, `postedUrls_transcript`: What a
  transcript holds at each level, and the addresses in it.
* `log_session`: The log of a session.
-/

namespace TableClient

open Client (Action Event Span Outcome)

/-- The events that announce a request. -/
def Request.announced (span : Span) (request : Request) : List Event :=
  [.post span request.url, .body span request.body]

/-- The messages of the events that announce a request. -/
def Request.messages (request : Request) : List String :=
  ["POST " ++ request.url, "BODY: " ++ request.body.compact]

/-- The address that an event announces. -/
def Client.Event.postedUrl? : Event → Option String
  | .post _ url => some url
  | _ => none

/-- The events of a session, in their order. -/
def Service.log {σ ι ε α : Type} (service : Service σ) (perform : Handler → ι → Outcome ε α)
    (state : σ) (calls : List ι) : List Event :=
  (service.session perform state calls).1.flatMap (·.events)

namespace Operation

/-- What the requests of an operation are logged under. -/
def span (config : Config) (op : Operation) : Span :=
  ⟨op.table, op.action, config.appId⟩

/-- The event that tells of a refusal, if there was one. -/
def refusal (op : Operation) : Except Client.Error (List Json) → List Event
  | .error (.unbalancedSelector selector) => [.rejected op.table selector]
  | _ => []

/-- What the log of an operation should be: the announcements of what was sent,
    and the refusal if there was one. -/
def transcript (config : Config) (op : Operation) (outcome : Outcome Client.Error (List Json)) :
    List Event :=
  outcome.requests.flatMap (Request.announced (op.span config)) ++ op.refusal outcome.result

theorem refusal_eq_nil {result : Except Client.Error (List Json)}
    (h : ∀ selector, result ≠ .error (.unbalancedSelector selector)) (op : Operation) :
    op.refusal result = [] := by
  unfold refusal
  split
  · rename_i selector
    exact absurd rfl (h selector)
  · rfl

/-- The log of an operation is its transcript. -/
theorem events_perform (config : Config) (handler : Handler) (op : Operation) :
    (Client.perform config handler op).events
      = op.transcript config (Client.perform config handler op) := by
  unfold transcript
  cases op.course with
  | sent _ hperform =>
      -- The announcements are all there is, since what was sent was not refused.
      rw [hperform, refusal_eq_nil (Client.result_send_ne_unbalanced _ _ _ _ _ _), List.append_nil]
      rfl
  | stopped fault _ hperform => rw [hperform]; rfl
  | refused selector _ _ _ hperform => rw [hperform]; rfl

/-- An operation that was refused for its selector has sent nothing, and the
    refusal is all that it has logged. -/
theorem events_of_refused {config : Config} {handler : Handler} {op : Operation}
    {selector : String}
    (h : (Client.perform config handler op).result = .error (.unbalancedSelector selector)) :
    (Client.perform config handler op).requests = [] ∧
      (Client.perform config handler op).events = [.rejected op.table selector] := by
  cases op.course with
  | sent _ hperform =>
      rw [hperform] at h
      exact absurd h (Client.result_send_ne_unbalanced _ _ _ _ _ _ selector)
  | stopped fault _ hperform => rw [hperform] at h; cases h
  | refused refused _ _ _ hperform =>
      rw [hperform] at h ⊢
      cases h
      exact ⟨rfl, rfl⟩

/-- An operation with a row that becomes no value logs nothing. -/
theorem events_of_unconverted {op : Operation} (h : ¬ ∀ row ∈ op.rows, row.toJson.isOk = true)
    (config : Config) (handler : Handler) : (Client.perform config handler op).events = [] := by
  cases op.course with
  | sent haccepted _ => exact absurd haccepted.1 h
  | stopped fault _ hperform => rw [hperform]
  | refused selector hrows _ _ _ => exact absurd hrows h

/-- There is at most one refusal. -/
theorem refusal_cases (op : Operation) (result : Except Client.Error (List Json)) :
    op.refusal result = [] ∨ ∃ selector, op.refusal result = [.rejected op.table selector] := by
  unfold refusal
  split
  · rename_i selector
    exact .inr ⟨selector, rfl⟩
  · exact .inl rfl

/-- Below a warning, a transcript tells the address and the body of each
    request, one right behind the other. -/
theorem messages_transcript (config : Config) (op : Operation)
    (outcome : Outcome Client.Error (List Json)) :
    ((op.transcript config outcome).filter (·.level = .debug)).map Event.message
      = outcome.requests.flatMap Request.messages := by
  have hrefusal : (op.refusal outcome.result).filter (·.level = .debug) = [] := by
    rcases op.refusal_cases outcome.result with h | ⟨selector, h⟩
    · rw [h, List.filter_nil]
    · rw [h]
      rfl
  rw [transcript, List.filter_append, hrefusal, List.append_nil, List.filter_flatMap,
    List.map_flatMap]
  rfl

/-- The warnings in a transcript are the refusals. -/
theorem warnings_transcript (config : Config) (op : Operation)
    (outcome : Outcome Client.Error (List Json)) :
    (op.transcript config outcome).filter (·.level = .warn) = op.refusal outcome.result := by
  have hannounced : ∀ event ∈ outcome.requests.flatMap (Request.announced (op.span config)),
      ¬ event.level = .warn := by
    intro event hmem
    rcases List.mem_flatMap.1 hmem with ⟨request, _, hevent⟩
    simp only [Request.announced, List.mem_cons, List.not_mem_nil, or_false] at hevent
    rcases hevent with rfl | rfl
    · simp only [Event.level, reduceCtorEq, not_false_eq_true]
    · simp only [Event.level, reduceCtorEq, not_false_eq_true]
  have hrefusal : ∀ event ∈ op.refusal outcome.result, event.level = .warn := by
    intro event hmem
    rcases op.refusal_cases outcome.result with h | ⟨selector, h⟩
    · rw [h] at hmem
      cases hmem
    · rw [h, List.mem_singleton] at hmem
      rw [hmem]
      rfl
  -- The two parts of a transcript are of different levels, so one of them stays.
  have hnil : (outcome.requests.flatMap (Request.announced (op.span config))).filter
      (·.level = .warn) = [] := List.filter_eq_nil_iff.2 (by simpa using hannounced)
  have hself : (op.refusal outcome.result).filter (·.level = .warn) = op.refusal outcome.result :=
    List.filter_eq_self.2 (by simpa using hrefusal)
  rw [transcript, List.filter_append, hnil, hself, List.nil_append]

/-- The addresses announced in a transcript are those of the requests. -/
theorem postedUrls_transcript (config : Config) (op : Operation)
    (outcome : Outcome Client.Error (List Json)) :
    (op.transcript config outcome).filterMap Event.postedUrl?
      = outcome.requests.flatMap fun request => [request.url] := by
  have hrefusal : (op.refusal outcome.result).filterMap Event.postedUrl? = [] := by
    rcases op.refusal_cases outcome.result with h | ⟨selector, h⟩
    · rw [h, List.filterMap_nil]
    · rw [h]
      rfl
  rw [transcript, List.filterMap_append, hrefusal, List.append_nil, List.filterMap_flatMap]
  rfl

/-- What is known of each outcome by its call is known of all outcomes by all
    calls. -/
theorem flatMap_eq_zipWith {α β γ : Type} {f : β → List γ} {g : α → β → List γ} {as : List α}
    {bs : List β} (h : List.Forall₂ (fun a b => f b = g a b) as bs) :
    bs.flatMap f = (List.zipWith g as bs).flatten := by
  induction h with
  | nil => rfl
  | cons hfirst _ ih => rw [List.flatMap_cons, List.zipWith_cons_cons, List.flatten_cons, hfirst, ih]

/-- The log of a session, whatever the service answers. Every operation logs its
    transcript: the address and the body of each request it has sent, and the
    refusal if it was refused, in which case it has sent nothing. One that was
    stopped by its rows logs nothing. So the announcements of a session are
    those of the requests that reached the service, address and body one right
    behind the other and in the order of the requests; the warnings are the
    refusals; and there are as many announced addresses as there are requests. -/
theorem log_session {σ : Type} (config : Config) (service : Service σ) (state : σ)
    (operations : List Operation) :
    List.Forall₂
      (fun op outcome => outcome.events = op.transcript config outcome ∧
        (∀ selector, outcome.result = .error (.unbalancedSelector selector) →
          outcome.requests = [] ∧ outcome.events = [.rejected op.table selector]) ∧
        ((¬ ∀ row ∈ op.rows, row.toJson.isOk = true) → outcome.events = []))
      operations (service.session (Client.perform config) state operations).1 ∧
    service.received (Client.perform config) state operations
      = (service.session (Client.perform config) state operations).1.flatMap (·.requests) ∧
    ((service.log (Client.perform config) state operations).filter (·.level = .debug)).map
        Event.message
      = (service.received (Client.perform config) state operations).flatMap Request.messages ∧
    (service.log (Client.perform config) state operations).filter (·.level = .warn)
      = (List.zipWith (fun op outcome => op.refusal outcome.result) operations
          (service.session (Client.perform config) state operations).1).flatten ∧
    (service.log (Client.perform config) state operations).filterMap Event.postedUrl?
      = (service.received (Client.perform config) state operations).map (·.url) := by
  refine ⟨?_, service.received_eq _ state operations, ?_, ?_, ?_⟩
  · refine service.forall₂_session _ (fun handler op => ?_) state operations
    exact ⟨events_perform config handler op, fun selector hrefused => events_of_refused hrefused,
      fun hrows => events_of_unconverted hrows config handler⟩
  · rw [Service.log, List.filter_flatMap, List.map_flatMap]
    refine service.flatMap_session _ (fun handler op => ?_) state operations
    rw [events_perform, messages_transcript]
  · rw [Service.log, List.filter_flatMap]
    refine flatMap_eq_zipWith (service.forall₂_session _ (fun handler op => ?_) state operations)
    rw [events_perform, warnings_transcript]
  · rw [Service.log, List.filterMap_flatMap, List.map_eq_flatMap]
    refine service.flatMap_session _ (fun handler op => ?_) state operations
    rw [events_perform, postedUrls_transcript]

/-- A refusal, an operation that is stopped by a row, and a request that
    fails. -/
theorem log_session_failures :
    ¬ (∀ row ∈ (add "T" [.json (.str "a"), .entries [(.null, .str "b")]]).rows,
        row.toJson.isOk = true) ∧
    (Service.replies.log (Client.perform (.new "app" "key")) [.error (.status 400 "no")]
        [readSelected "T" (.raw "("), add "T" [.json (.str "a"), .entries [(.null, .str "b")]],
          readAll "T"]).filter (·.level = .warn)
      = [.rejected "T" "("] ∧
    ((Service.replies.log (Client.perform (.new "app" "key")) [.error (.status 400 "no")]
        [readSelected "T" (.raw "("), add "T" [.json (.str "a"), .entries [(.null, .str "b")]],
          readAll "T"]).filter (·.level = .debug)).map Event.message
      = ["POST https://api.appsheet.com/api/v2/apps/app/tables/T/Action",
          "BODY: \x7b\"Action\":\"Find\",\"Properties\":\x7b\x7d,\"Rows\":[]\x7d"] := by
  refine ⟨by decide, ?_, ?_⟩
  · rw [(log_session _ _ _ _).2.2.2.1]
    rfl
  · rw [(log_session _ _ _ _).2.2.1]
    decide +kernel

end Operation

end TableClient
