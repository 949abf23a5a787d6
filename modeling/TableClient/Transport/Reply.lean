import TableClient.Text.Blank
import TableClient.Transport.Request

/-!
# Replies

What a reply of the service says.

A reply of status 200 has to be JSON. If it is an object with a member
`Rows`, that member is the answer, and otherwise the whole value is. A reply
of any other status is a failure. Its message is the text of the member
`Message` of the reply where there is one, and the reply itself without the
blanks around it otherwise.

## Main definitions

* `Reply`: A status and a text.
* `Reply.message`: The message of a reply that is a failure.
* `Reply.content`: What a reply says.
-/

namespace TableClient

/-- The status and the text of a reply. -/
structure Reply where
  status : Nat
  text : String
deriving DecidableEq, Repr

namespace Reply

/-- The status of success. -/
def success : Nat := 200

/-- The answer that a value read from a reply carries. -/
def rowsPart (value : Json) : Json :=
  (value.member? "Rows").getD value

/-- The message a text carries as JSON, if it does. -/
def messageMember? (text : String) : Option String :=
  match Json.parse text with
  | .error _ => none
  | .ok value => (value.member? "Message").bind Json.string?

/-- The message of a reply that is a failure. -/
def message (reply : Reply) : String :=
  (messageMember? reply.text).getD (Text.trim reply.text)

/-- What a reply says. -/
def content (reply : Reply) : Except Transport.Error Json :=
  if reply.status = success then
    match Json.parse reply.text with
    | .error error => .error (.undecodable error)
    | .ok value => .ok (rowsPart value)
  else .error (.status reply.status reply.message)

end Reply

end TableClient
