import TableClient.Client
import TableClient.Expression.Codec
import TableClient.Json.Parse

/-!
# Commands

The three things the program does: it renders an expression as a formula,
checks the brackets of a formula, and finds rows.

To find rows a selector may be given as formula text or as an expression, but
not as both. An expression that is a condition means the rows of the table
itself for which it holds. Without either, all rows are found.

## Main definitions

* `Command.Error`: Why a command failed.
* `Command.Error.message`: The sentence that reports it.
* `Command.readExpression`: The expression a text spells.
* `Command.render`: The formula of an expression.
* `Command.check`: Whether the brackets of a formula balance.
* `Command.Find`: What to find.
* `Command.Find.perform`: What finding does.
-/

namespace TableClient

namespace Command

/-- Why a command failed. -/
inductive Error where
  | expression (error : Expression.Error)
  | unbalancedSelector
  | config (error : Config.Error)
  | client (error : Client.Error)
  | json (error : Json.Error)
  | undecodableInput
  | conflictingSelectors
  | noInput

/-- The sentence that reports why a command failed. -/
def Error.message : Error → String
  | .expression error => "Invalid expression: " ++ error.message
  | .unbalancedSelector =>
    "Invalid selector: number of opened and closed parentheses does not match"
  | .config error => "Configuration error: " ++ error.message
  | .client error => "Request failed: " ++ error.message
  | .json error => "Invalid JSON: " ++ error.message
  | .undecodableInput => "IO error: stream did not contain valid UTF-8"
  | .conflictingSelectors => "Use either --selector or --query, not both."
  | .noInput => "No input provided. Pass the expression as an argument or pipe JSON to stdin."

/-- The expression a text spells in JSON. -/
def readExpression (text : String) : Except Error Expression :=
  match Json.parse text with
  | .error error => .error (.json error)
  | .ok value => (Expression.ofJson value).mapError .expression

/-- The formula of the expression a text spells. -/
def renderText (text : String) : Except Error String :=
  (readExpression text).map Expression.formula

/-- The formula of the expression that was given. -/
def render (input : Option String) : Except Error String :=
  match input with
  | none => .error .noInput
  | some text => renderText text

/-- Accepts a formula whose brackets balance. -/
def check (selector : String) : Except Error Unit :=
  if Formula.Balanced selector then .ok () else .error .unbalancedSelector

/-- What to find: rows of a table, picked by formula text or by an
    expression. -/
structure Find where
  table : String
  selector : Option String
  query : Option String
deriving DecidableEq, Repr

namespace Find

/-- The selector of an expression; a condition picks rows of the table
    itself. -/
def selectorOf (table : String) : Expression → Selector
  | .query q => .query q
  | .condition c => .query (.filter table (.condition c))

/-- The selector that was given. -/
def selector? (find : Find) : Except Error (Option Selector) :=
  match find.selector, find.query with
  | some _, some _ => .error .conflictingSelectors
  | some text, none => .ok (some (.raw text))
  | none, some text => (readExpression text).map (some <| selectorOf find.table ·)
  | none, none => .ok none

/-- The operation that finds rows. -/
def operation (table : String) : Option Selector → Operation
  | none => .readAll table
  | some selector => .readSelected table selector

/-- What finding rows does. -/
def perform (find : Find) (config : Config) (handler : Handler) :
    Client.Outcome Error (List Json) :=
  match find.selector? with
  | .error error => ⟨.error error, [], []⟩
  | .ok selector =>
    let outcome := Client.perform config handler (operation find.table selector)
    { outcome with result := outcome.result.mapError .client }

/-- What finding rows does when the configuration has to be looked up
    first. -/
def run (find : Find) (lookup : Config.Lookup) (handler : Handler) :
    Client.Outcome Error (List Json) :=
  match Config.ofLookup lookup with
  | .error error => ⟨.error (.config error), [], []⟩
  | .ok config => find.perform config handler

end Find

end Command

end TableClient
