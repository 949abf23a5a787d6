import TableClient.Proofs.Client.Requests
import TableClient.Proofs.Json.Entries
import TableClient.Proofs.Text.Trim
import TableClient.Transport.Reply

/-!
# Answers to Operations

What an operation ends with when its request got a reply.

Two places look at a reply. The transport reads its text, takes the rows out of
an object that has some, and turns any status but that of success into an error.
The client then asks for an array. `Verdict` says in one step what the two make
of a reply, from the status and the entries of the text as they are written:
there are four ways for an operation to end, and each reply leads to exactly one
of them. `perform_verdict` is the proof that operations end so, whichever they
are, and whatever the handler says to other requests.

A text may name its rows or its message more than once. Then the last entry
counts, so the verdict speaks of that one, with `Json.Holds`.

## Main definitions

* `Reply.Says`: The value that the text of a reply stands for.
* `Reply.Carries`: The rows in the text of a reply.
* `Reply.Explains`: The message in the text of a reply.
* `Reply.Verdict`: What an operation ends with for a reply.

## Theorems

* `says_iff`, `explains_iff`: What the transport takes out of a text.
* `carries_iff`: The rows of a text are the array that it stands for.
* `Verdict.unique`: A reply leads to one end.
* `verdict_of_content`: What a client makes of a reply that was read.
* `result_of_mem_requests`: What an operation that sent a request ends with.
* `perform_congr`: An outcome depends on the handler by these replies only.
* `perform_verdict`: What it ends with for a reply.
-/

namespace TableClient

namespace Reply

/-- A text stands for a value: for the one of its last entry `Rows` if it is an
    object that has such an entry, and for the value it spells otherwise. -/
inductive Says (text : String) (value : Json) : Prop where
  | member (h : Json.Holds text "Rows" value) : Says text value
  | whole (h : Json.parse text = .ok value) (hnone : ∀ other, ¬Json.Holds text "Rows" other) :
    Says text value

/-- A text carries rows: it is an array of them, or an object whose last entry
    `Rows` is. -/
def Carries (text : String) (rows : List Json) : Prop :=
  Json.parse text = .ok (.arr rows) ∨ Json.Holds text "Rows" (.arr rows)

/-- A text gives a message: its last entry `Message` if that is a string, and
    otherwise itself without the blanks around it. -/
inductive Explains (text message : String) : Prop where
  | member (h : Json.Holds text "Message" (.str message)) : Explains text message
  | whole (hnone : ∀ other, ¬Json.Holds text "Message" (.str other))
    (h : Text.Trims text message) : Explains text message

/-- What an operation ends with when its request got the reply. -/
inductive Verdict (reply : Reply) : Except Client.Error (List Json) → Prop where
  | rows {rows : List Json} (hstatus : reply.status = 200) (h : Carries reply.text rows) :
    Verdict reply (.ok rows)
  | undecodable {error : Json.Error} (hstatus : reply.status = 200)
    (h : Json.parse reply.text = .error error) :
    Verdict reply (.error (.transport (.undecodable error)))
  | notRows {value : Json} (hstatus : reply.status = 200) (h : Says reply.text value)
    (hvalue : ∀ rows, value ≠ .arr rows) :
    Verdict reply (.error (.rows (.wrongType (.ofJson value) .array)))
  | failed {message : String} (hstatus : reply.status ≠ 200) (h : Explains reply.text message) :
    Verdict reply (.error (.transport (.status reply.status message)))

/-! ### What the transport takes out of a text -/

section

variable {text : String} {value : Json}

/-- A text stands for the rows part of what it spells. -/
theorem says_iff : Says text value ↔ ∃ v, Json.parse text = .ok v ∧ rowsPart v = value := by
  constructor
  · rintro (h | ⟨h, hnone⟩)
    · rcases Json.member?_parse_iff.2 h with ⟨v, hparse, hmember⟩
      exact ⟨v, hparse, by rw [rowsPart, hmember, Option.getD_some]⟩
    · refine ⟨value, h, ?_⟩
      have hmember : value.member? "Rows" = none := by
        cases hfound : value.member? "Rows" with
        | none => rfl
        | some part => exact absurd (Json.member?_parse_iff.1 ⟨value, h, hfound⟩) (hnone part)
      rw [rowsPart, hmember, Option.getD_none]
  · rintro ⟨v, hparse, rfl⟩
    unfold rowsPart
    cases hmember : v.member? "Rows" with
    | some part => exact .member (Json.member?_parse_iff.1 ⟨v, hparse, hmember⟩)
    | none =>
        refine .whole hparse fun other hother => ?_
        rcases Json.member?_parse_iff.2 hother with ⟨w, hw, hfound⟩
        have hsame : v = w := Except.ok.inj (hparse.symm.trans hw)
        rw [← hsame, hmember] at hfound
        cases hfound

/-- A text stands for one value at most. -/
theorem Says.unique {other : Json} (h : Says text value) (hother : Says text other) :
    value = other := by
  rcases says_iff.1 h with ⟨v, hv, rfl⟩
  rcases says_iff.1 hother with ⟨w, hw, rfl⟩
  rw [Except.ok.inj (hv.symm.trans hw)]

/-- The rows of a text are the array that it stands for. -/
theorem carries_iff {rows : List Json} : Carries text rows ↔ Says text (.arr rows) := by
  constructor
  · rintro (h | h)
    · -- An array has no entries.
      refine .whole h fun other hother => ?_
      rcases Json.member?_parse_iff.2 hother with ⟨v, hv, hmember⟩
      rw [← Except.ok.inj (h.symm.trans hv)] at hmember
      cases hmember
    · exact .member h
  · rintro (h | ⟨h, -⟩)
    · exact .inr h
    · exact .inl h

/-- The message member of a text is its last entry `Message`, if that is a
    string. -/
theorem messageMember?_eq_some_iff {message : String} :
    messageMember? text = some message ↔ Json.Holds text "Message" (.str message) := by
  rw [← Json.member?_parse_iff]
  unfold messageMember?
  cases Json.parse text with
  | error error => simp
  | ok v =>
      simp only [Option.bind_eq_some_iff, Json.string?_eq_some_iff, Except.ok.injEq,
        exists_eq_left']
      constructor
      · rintro ⟨content, hmember, rfl⟩
        exact hmember
      · intro h
        exact ⟨.str message, h, rfl⟩

/-- A text gives the message that the transport takes out of it. -/
theorem explains_iff {message : String} :
    Explains text message ↔ (messageMember? text).getD (Text.trim text) = message := by
  constructor
  · rintro (h | ⟨hnone, h⟩)
    · rw [messageMember?_eq_some_iff.2 h, Option.getD_some]
    · have hmember : messageMember? text = none := by
        cases hfound : messageMember? text with
        | none => rfl
        | some other => exact absurd (messageMember?_eq_some_iff.1 hfound) (hnone other)
      rw [hmember, Option.getD_none]
      exact Text.trim_eq_iff.2 h
  · rintro rfl
    cases hmember : messageMember? text with
    | some found => exact .member (messageMember?_eq_some_iff.1 hmember)
    | none =>
        refine .whole (fun other hother => ?_) (Text.trim_eq_iff.1 rfl)
        rw [messageMember?_eq_some_iff.2 hother] at hmember
        cases hmember

end

/-! ### What the client makes of it -/

/-- A reply leads to one end only. -/
theorem Verdict.unique {reply : Reply} {first second : Except Client.Error (List Json)}
    (hfirst : Verdict reply first) (hsecond : Verdict reply second) : first = second := by
  -- What a text stands for is an array, or is none, or there is no such thing.
  have hunspelt : ∀ {error value}, Json.parse reply.text = .error error →
      ¬Says reply.text value := by
    intro error value herror hsaid
    rcases says_iff.1 hsaid with ⟨v, hparse, -⟩
    rw [herror] at hparse
    cases hparse
  cases hfirst with
  | rows hstatus h =>
      have hsaid := carries_iff.1 h
      cases hsecond with
      | rows _ h' => rw [Json.arr.inj (hsaid.unique (carries_iff.1 h'))]
      | undecodable _ h' => exact absurd hsaid (hunspelt h')
      | notRows _ h' hvalue => exact absurd (h'.unique hsaid) (hvalue _)
      | failed hother => exact absurd hstatus hother
  | undecodable hstatus h =>
      cases hsecond with
      | rows _ h' => exact absurd (carries_iff.1 h') (hunspelt h)
      | undecodable _ h' => rw [Except.error.inj (h.symm.trans h')]
      | notRows _ h' => exact absurd h' (hunspelt h)
      | failed hother => exact absurd hstatus hother
  | notRows hstatus h hvalue =>
      cases hsecond with
      | rows _ h' => exact absurd (h.unique (carries_iff.1 h')) (hvalue _)
      | undecodable _ h' => exact absurd h (hunspelt h')
      | notRows _ h' => rw [h.unique h']
      | failed hother => exact absurd hstatus hother
  | failed hstatus h =>
      cases hsecond with
      | rows hother => exact absurd hother hstatus
      | undecodable hother => exact absurd hother hstatus
      | notRows hother => exact absurd hother hstatus
      | failed _ h' => rw [(explains_iff.1 h).symm.trans (explains_iff.1 h')]

/-- What a client makes of an answer: the rows in it, or an error. -/
def settled : Except Transport.Error Json → Except Client.Error (List Json)
  | .error error => .error (.transport error)
  | .ok answer => Client.rowsOf answer

/-- What a client makes of a reply that was read is the verdict on it. -/
theorem verdict_of_content (reply : Reply) : Verdict reply (settled reply.content) := by
  unfold content
  by_cases hstatus : reply.status = success
  · rw [if_pos hstatus]
    cases hparse : Json.parse reply.text with
    | error error => exact .undecodable hstatus hparse
    | ok v =>
        have hsaid : Says reply.text (rowsPart v) := says_iff.2 ⟨v, hparse, rfl⟩
        simp only [settled]
        cases hpart : rowsPart v with
        | arr items => exact .rows hstatus (carries_iff.2 (hpart ▸ hsaid))
        | _ => exact .notRows hstatus (hpart ▸ hsaid) nofun
  · rw [if_neg hstatus]
    exact .failed hstatus (explains_iff.2 rfl)

end Reply

namespace Operation

variable {config : Config} {handler : Handler} {op : Operation} {request : Request} {reply : Reply}

/-- An operation that sent a request ends with what a client makes of the
    answer. -/
theorem result_of_mem_requests (h : request ∈ (Client.perform config handler op).requests) :
    (Client.perform config handler op).result = Reply.settled (handler request) := by
  cases op.course with
  | sent _ hperform =>
      rw [hperform] at h ⊢
      rw [List.mem_singleton.1 h]
      rfl
  | stopped _ _ hperform =>
      rw [hperform] at h
      cases h
  | refused _ _ _ _ hperform =>
      rw [hperform] at h
      cases h

/-- An operation knows its handler by the replies to its own requests. Under
    another handler with the same replies to these it has the same outcome, so
    nothing that is said to other requests makes a difference. -/
theorem perform_congr {first second : Handler}
    (h : ∀ request ∈ (Client.perform config first op).requests, first request = second request) :
    Client.perform config first op = Client.perform config second op := by
  cases op.course with
  | sent _ hperform =>
      rw [hperform] at h
      -- All that is made of the handler is its reply to this one request.
      have hreply := h _ (List.mem_singleton.2 rfl)
      rw [hperform, hperform]
      simp only [Client.send, hreply]
  | stopped _ _ hperform => rw [hperform, hperform]
  | refused _ _ _ _ hperform => rw [hperform, hperform]

/-- What an operation ends with when its request got a reply is the verdict on
    the reply, and nothing else. It ends with rows just if the status is that of
    success and these are the rows of the text. With the status of success and a
    text that is no JSON it ends with the error of the text, with a value that
    carries no rows it ends with a fault of the rows, and with any other status it
    fails with this status and the message of the text. -/
theorem perform_verdict (hsent : request ∈ (Client.perform config handler op).requests)
    (hreply : handler request = reply.content) :
    (∀ result, (Client.perform config handler op).result = result ↔ reply.Verdict result) ∧
    (∀ rows, (Client.perform config handler op).result = .ok rows ↔
      reply.status = 200 ∧ Reply.Carries reply.text rows) ∧
    (∀ error, (Client.perform config handler op).result
        = .error (.transport (.undecodable error)) ↔
      reply.status = 200 ∧ Json.parse reply.text = .error error) ∧
    ((∃ fault, (Client.perform config handler op).result = .error (.rows fault)) ↔
      reply.status = 200 ∧ (∃ value, Json.parse reply.text = .ok value) ∧
        ∀ rows, ¬Reply.Carries reply.text rows) ∧
    ((∃ code message, (Client.perform config handler op).result
        = .error (.transport (.status code message)) ∧ code = reply.status ∧
          Reply.Explains reply.text message) ↔
      reply.status ≠ 200) := by
  have hverdict : reply.Verdict (Client.perform config handler op).result := by
    rw [result_of_mem_requests hsent, hreply]
    exact reply.verdict_of_content
  generalize (Client.perform config handler op).result = result at hverdict
  refine ⟨fun other => ⟨fun h => h ▸ hverdict, hverdict.unique⟩, fun rows => ⟨?_, ?_⟩,
    fun error => ⟨?_, ?_⟩, ⟨?_, ?_⟩, ⟨?_, ?_⟩⟩
  · rintro rfl
    cases hverdict with
    | rows hstatus h => exact ⟨hstatus, h⟩
  · rintro ⟨hstatus, h⟩
    exact hverdict.unique (.rows hstatus h)
  · rintro rfl
    cases hverdict with
    | undecodable hstatus h => exact ⟨hstatus, h⟩
  · rintro ⟨hstatus, h⟩
    exact hverdict.unique (.undecodable hstatus h)
  · rintro ⟨fault, rfl⟩
    cases hverdict with
    | notRows hstatus h hvalue =>
        rcases Reply.says_iff.1 h with ⟨v, hparse, -⟩
        refine ⟨hstatus, ⟨v, hparse⟩, fun rows hrows => ?_⟩
        exact hvalue rows (h.unique (Reply.carries_iff.1 hrows))
  · rintro ⟨hstatus, ⟨v, hparse⟩, hnone⟩
    have hsaid : Reply.Says reply.text (Reply.rowsPart v) := Reply.says_iff.2 ⟨v, hparse, rfl⟩
    refine ⟨_, hverdict.unique (.notRows hstatus hsaid fun rows hrows => ?_)⟩
    exact hnone rows (Reply.carries_iff.2 (hrows ▸ hsaid))
  · rintro ⟨code, message, rfl, -, -⟩
    cases hverdict with
    | failed hstatus => exact hstatus
  · intro hstatus
    cases hverdict with
    | rows hother => exact absurd hother hstatus
    | undecodable hother => exact absurd hother hstatus
    | notRows hother => exact absurd hother hstatus
    | failed _ h => exact ⟨_, _, rfl, rfl, h⟩

/-- Of two entries with the rows the last one counts. A text that is no JSON is
    the message of a failure, without the blanks around it. -/
theorem perform_verdict_repeated :
    (Client.perform (.new "a" "k")
        (fun _ => (⟨200, "\x7b\"Rows\":\"A\",\"Rows\":[\"B\"]\x7d"⟩ : Reply).content)
        (readAll "T")).result
      = .ok [.str "B"] ∧
    (Client.perform (.new "a" "k") (fun _ => (⟨500, " down\n"⟩ : Reply).content)
        (readAll "T")).result
      = .error (.transport (.status 500 "down")) := by
  constructor
  · have htext : "\x7b\"Rows\":\"A\",\"Rows\":[\"B\"]\x7d"
        = String.ofList ('\x7b' :: (Json.membersText true
          [("Rows", .str "A"), ("Rows", .arr [.str "B"])] ++ ['\x7d'])) := by decide +kernel
    refine ((perform_verdict (List.mem_singleton.2 rfl) rfl).2.1 _).2 ⟨rfl, .inr ?_⟩
    simp only [htext]
    refine ⟨_, Json.enumerates_written ?_ (by decide), [("Rows", .str "A")], [], rfl, nofun⟩
    simp [Json.Textual.str, Json.Textual.arr]
  · refine ((perform_verdict (List.mem_singleton.2 rfl) rfl).1 _).2 (.failed (by decide) ?_)
    exact Reply.explains_iff.2 (by decide +kernel)

end Operation

end TableClient
