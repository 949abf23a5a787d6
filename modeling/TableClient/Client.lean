import TableClient.Config
import TableClient.Expression.Query
import TableClient.Formula.Bracket
import TableClient.Properties.Codec
import TableClient.Transport.Request
import TableClient.Url.Percent

/-!
# The Client

The operations on the rows of a table, and everything a client does to carry
them out.

An operation sends at most one request. Before that, the rows it was given
become JSON values, all of them or none; and a selector has to have balanced
brackets. If either fails, nothing is sent. The body of a request names the
action, carries the properties of the configuration with those of the request
laid over them, and lists the rows.

What an operation does is an `Outcome`: its result, the requests that were
sent and the events that were logged, each in order.

## Main definitions

* `Row`: A row as the caller gives it.
* `Selector`: Which rows to find.
* `Operation`: The operations on a table.
* `Client.Error`: Why an operation failed.
* `Client.Event`: What is logged.
* `Client.endpoint`: The address of a table.
* `Client.perform`: What an operation does.

## Theorems

* `result_send_ne_unbalanced`: What was sent was not refused.
-/

namespace TableClient

/-- A row as the caller gives it: a value, or entries whose keys may be given
    as numbers and truth values as well. -/
inductive Row where
  /-- A value, used as it is. -/
  | json (value : Json)
  /-- Entries, each a key and a value. -/
  | entries (pairs : List (Json × Json))

namespace Row

/-- The key a value can stand for. -/
def keyText? : Json → Option String
  | .str text => some text
  | .num value => some value.text
  | .bool value => some (Json.boolText value)
  | _ => none

/-- The members some entries make. -/
def membersOf : List (Json × Json) → Except Json.Fault (List (String × Json))
  | [] => .ok []
  | (key, value) :: rest =>
    match keyText? key with
    | none => .error .keyNotString
    | some text => do
      let members ← membersOf rest
      .ok ((text, value) :: members)

/-- The value a row becomes. -/
def toJson : Row → Except Json.Fault Json
  | .json value => .ok value
  | .entries pairs => do
    let members ← membersOf pairs
    .ok (Json.object members)

end Row

/-- Which rows to find, as formula text or as a query. -/
inductive Selector where
  | raw (text : String)
  | query (query : Query)
deriving DecidableEq, Repr

/-- The formula of a selector. -/
def Selector.formula : Selector → String
  | .raw text => text
  | .query q => q.formula

/-- An operation on the rows of a table. -/
inductive Operation where
  | add (table : String) (rows : List Row)
  | delete (table : String) (rows : List Row)
  | update (table : String) (rows : List Row)
  | readByKeys (table : String) (keys : List Row)
  | readAll (table : String)
  | readSelected (table : String) (selector : Selector)

namespace Client

/-- What a request asks the service to do. -/
inductive Action where
  | add
  | delete
  | edit
  | find
deriving DecidableEq, Repr

/-- The name of an action. -/
def Action.name : Action → String
  | .add => "Add"
  | .delete => "Delete"
  | .edit => "Edit"
  | .find => "Find"

/-- Why an operation failed. -/
inductive Error where
  /-- The brackets of the selector do not balance; nothing was sent. -/
  | unbalancedSelector (selector : String)
  /-- The request has no answer. -/
  | transport (error : Transport.Error)
  /-- Rows could not become JSON, or the answer is not a list of rows. -/
  | rows (fault : Json.Fault)
deriving DecidableEq, Repr

/-- The sentence that reports why an operation failed. -/
def Error.message : Error → String
  | .unbalancedSelector selector =>
    "Number of opened and closed parentheses does not match. Selector: " ++ selector
  | .transport error => error.message
  | .rows fault => "row conversion failed: " ++ fault.placeless.message

/-- The request that an event belongs to. -/
structure Span where
  table : String
  action : Action
  appId : String
deriving DecidableEq, Repr

/-- What is logged. -/
inductive Event where
  /-- A request is about to be sent to an address. -/
  | post (span : Span) (url : String)
  /-- The body of the request that is about to be sent. -/
  | body (span : Span) (payload : Json)
  /-- A selector was refused. -/
  | rejected (table : String) (selector : String)

/-- The result of doing something, the requests sent meanwhile and the events
    logged. -/
structure Outcome (ε α : Type) where
  result : Except ε α
  requests : List Request
  events : List Event

/-- The address of a table. -/
def endpoint (config : Config) (table : String) : String :=
  config.baseUrl ++ "/apps/" ++ config.appId ++ "/tables/" ++ Url.encode table ++ "/Action"

/-- The body of a request. -/
def requestBody (action : Action) (properties : Properties) (rows : List Json) : Json :=
  .obj
    [("Action", .str action.name), ("Properties", properties.toJson), ("Rows", .arr rows)]

/-- The rows an answer carries. -/
def rowsOf : Json → Except Error (List Json)
  | .arr items => .ok items
  | value => .error (.rows (.wrongType (.ofJson value) .array))

/-- The request for an action on a table. -/
def request (config : Config) (table : String) (action : Action) (properties : Properties)
    (rows : List Json) : Request where
  url := endpoint config table
  key := config.accessKey
  body := requestBody action (config.properties.merged properties) rows

/-- Sends a request and reads the rows of the answer. -/
def send (config : Config) (handler : Handler) (table : String) (action : Action)
    (properties : Properties) (rows : List Json) : Outcome Error (List Json) :=
  let request := request config table action properties rows
  let span := ⟨table, action, config.appId⟩
  { result :=
      match handler request with
      | .error error => .error (.transport error)
      | .ok answer => rowsOf answer
    requests := [request]
    events := [.post span request.url, .body span request.body] }

/-- A request that was sent was not refused for its selector, whatever the
    handler answers. -/
theorem result_send_ne_unbalanced (config : Config) (handler : Handler) (table : String)
    (action : Action) (properties : Properties) (rows : List Json) (selector : String) :
    (send config handler table action properties rows).result
      ≠ .error (.unbalancedSelector selector) := by
  intro h
  unfold send at h
  simp only [] at h
  split at h
  · cases h
  · rename_i answer _
    cases answer <;> cases h

/-- Sends a request with rows, or nothing if one of them is no row. -/
def sendRows (config : Config) (handler : Handler) (table : String) (action : Action)
    (rows : List Row) : Outcome Error (List Json) :=
  match rows.mapM Row.toJson with
  | .error fault => ⟨.error (.rows fault), [], []⟩
  | .ok values => send config handler table action Properties.empty values

/-- Asks for the rows a selector picks, or for nothing if its brackets do not
    balance. -/
def sendSelector (config : Config) (handler : Handler) (table selector : String) :
    Outcome Error (List Json) :=
  if Formula.Balanced selector then
    send config handler table .find { selector := some selector } []
  else ⟨.error (.unbalancedSelector selector), [], [.rejected table selector]⟩

/-- What an operation does. -/
def perform (config : Config) (handler : Handler) : Operation → Outcome Error (List Json)
  | .add table rows => sendRows config handler table .add rows
  | .delete table rows => sendRows config handler table .delete rows
  | .update table rows => sendRows config handler table .edit rows
  | .readByKeys table keys => sendRows config handler table .find keys
  | .readAll table => send config handler table .find Properties.empty []
  | .readSelected table selector => sendSelector config handler table selector.formula

end Client

end TableClient
