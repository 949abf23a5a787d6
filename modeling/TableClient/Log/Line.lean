import TableClient.Client
import TableClient.Log.Filter
import TableClient.Text.Quoted

/-!
# Lines of the Log

Events as lines of text.

A line has the time, the level, the request it belongs to if there is one,
the target, and the message. Control characters that could steer a terminal
are escaped in messages. The table is quoted; other values stand as they are.

A request is a span for the filter, with the values that its text names.

## Main definitions

* `Span.scope`: A request as a span.
* `Event.level`, `Event.fields`, `Event.message`: What an event says.
* `Event.line`: The line of an event.
* `lines`: The lines of the events that a filter shows.
-/

namespace TableClient

namespace Log

/-- The target of all events of a client. -/
def target : String := "appsheet_client::client"

/-- A character of a message, escaped if it could steer a terminal. -/
def escaped (c : Char) : List Char :=
  let n := c.toNat
  if n == 0x07 || n == 0x08 || n == 0x0C || n == 0x1B || n == 0x7F then
    ['\\', 'x', Text.hexDigit (n / 16), Text.hexDigit (n % 16)]
  else if 0x80 ≤ n && n ≤ 0x9F then Text.codePoint c
  else [c]

/-- A message with its control characters escaped. -/
def sanitized (message : String) : String :=
  .ofList (message.toList.flatMap escaped)

end Log

namespace Client

/-- The request that an event belongs to, as a span. -/
def Span.scope (span : Span) : Log.Scope :=
  ⟨Log.target, "make_request", .info,
    [("table", span.table), ("action", span.action.name), ("app_id", span.appId)]⟩

/-- The text of the request that an event belongs to. -/
def Span.text (span : Span) : String :=
  "make_request\x7btable=" ++ Text.quoted span.table ++ " action=" ++ span.action.name
    ++ " app_id=" ++ span.appId ++ "\x7d"

namespace Event

/-- The level of an event. -/
def level : Event → Log.Level
  | .post .. => .debug
  | .body .. => .debug
  | .rejected .. => .warn

/-- The message of an event. -/
def message : Event → String
  | .post _ url => "POST " ++ url
  | .body _ payload => "BODY: " ++ payload.compact
  | .rejected .. => "rejected selector with unbalanced brackets"

/-- The names of the fields of an event. -/
def fields : Event → List String
  | .rejected .. => ["message", "table", "selector"]
  | _ => ["message"]

/-- The request an event belongs to. -/
def span? : Event → Option Span
  | .post span _ => some span
  | .body span _ => some span
  | .rejected .. => none

/-- The request an event belongs to, as a part of its line. It is left out if
    the filter does not show requests. -/
def context (filter : Log.Filter) (event : Event) : String :=
  match event.span? with
  | some span => if filter.showsScope span.scope then span.text ++ ": " else ""
  | none => ""

/-- The values an event carries, as a part of its line. -/
def details : Event → String
  | .rejected table selector => " table=" ++ Text.quoted table ++ " selector=" ++ selector
  | _ => ""

/-- The line of an event. -/
def line (filter : Log.Filter) (time : String) (event : Event) : String :=
  time ++ " " ++ event.level.label ++ " " ++ event.context filter ++ Log.target ++ ": "
    ++ Log.sanitized event.message ++ event.details ++ "\n"

/-- Whether a filter shows an event. -/
def isShown (filter : Log.Filter) (event : Event) : Bool :=
  match event.span? with
  | some span => filter.showsWithin span.scope event.fields event.level
  | none => filter.shows Log.target event.fields event.level

end Event

end Client

/-- The lines of the events that a filter shows. -/
def Log.lines (filter : Log.Filter) (time : String) (events : List Client.Event) : String :=
  .join ((events.filter (Client.Event.isShown filter)).map (Client.Event.line filter time))

end TableClient
