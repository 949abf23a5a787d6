import TableClient.Command.Help
import TableClient.Log.Line
import TableClient.Transport.Web

/-!
# Running a Command Line

From arguments and surroundings to an exit code and two texts.

Everything a run depends on is in its `Surroundings`: the variables, the
standard input, the time that log lines carry, and what answers requests. The
result is the exit code and what stands on the two output streams.

A run that fails says why on the error stream, behind the lines of the log,
and prints nothing else. Which log lines there are depends on a filter: that
of the option, else that of a variable, else the one that shows warnings.

## Main definitions

* `Input`: The standard input.
* `Surroundings`: What a run depends on besides the arguments.
* `Exit`: What a run ends with.
* `runTask`: What a task leads to.
* `run`: What some arguments lead to.
* `readsInput`: Whether they lead to reading the standard input.
-/

namespace TableClient

namespace Command

/-- The standard input. -/
inductive Input where
  /-- Someone at a terminal, who is not asked. -/
  | terminal
  /-- Bytes that can be read to their end. -/
  | bytes (bytes : List UInt8)

/-- What a run depends on besides the arguments. -/
structure Surroundings where
  lookup : Config.Lookup
  input : Input
  time : String
  handler : Handler

/-- What a run ends with. -/
structure Exit where
  code : Nat
  output : String
  errors : String
deriving DecidableEq, Repr

/-- The variable that holds a filter of the log. -/
def filterVar : String := "RUST_LOG"

/-- The part of the program whose events the option shows. -/
def logSource : String := "appsheet_client"

/-- Which events a run shows. -/
def logFilter (verbose : Bool) (lookup : Config.Lookup) : Log.Filter :=
  if verbose then Log.Filter.only logSource .debug
  else ((lookup filterVar).bind Log.Filter.ofText?).getD (Log.Filter.upTo .warn)

/-- The end of a run that has printed a text. -/
def Exit.success (log output : String) : Exit :=
  ⟨0, output, log⟩

/-- The end of a run that has failed. -/
def Exit.failure (log : String) (error : Error) : Exit :=
  ⟨1, "", log ++ error.message ++ "\n"⟩

/-- The end of a run with one result. -/
def Exit.ofResult {α : Type} (log : String) (print : α → String) : Except Error α → Exit
  | .ok value => .success log (print value ++ "\n")
  | .error error => .failure log error

/-- The text of the standard input, if it can be read. -/
def inputText : Input → Except Error (Option String)
  | .terminal => .ok none
  | .bytes bytes =>
    match Text.ofUtf8? bytes with
    | none => .error .undecodableInput
    | some text => .ok (some text)

/-- The formula of the expression that was given or else stands on the
    standard input. -/
def renderFrom (input : Input) : Option String → Except Error String
  | some expression => render (some expression)
  | none => do
    let text ← inputText input
    render text

/-- Whether some arguments lead to reading the standard input. -/
def readsInput (arguments : List String) : Bool :=
  match Invocation.ofArguments? arguments with
  | some (.run _ (.render none)) => true
  | _ => false

/-- The variables a run may look up. -/
def variableNames : List String :=
  [Config.appIdVar, Config.accessKeyVar, Config.localeVar, Config.locationVar,
    Config.timezoneVar, Config.baseUrlVar, filterVar]

/-- The text of rows that were found. -/
def rowsText (pretty : Bool) (rows : List Json) : String :=
  if pretty then (Json.arr rows).pretty else (Json.arr rows).compact

/-- What a task leads to. -/
def runTask (surroundings : Surroundings) (filter : Log.Filter) : Task → Exit
  | .render expression => .ofResult "" id (renderFrom surroundings.input expression)
  | .check selector => .ofResult "" (fun _ => "Selector is valid") (check selector)
  | .find find pretty =>
    let outcome := find.run surroundings.lookup surroundings.handler
    .ofResult (Log.lines filter surroundings.time outcome.events) (rowsText pretty) outcome.result

/-- What some arguments lead to. -/
def run (surroundings : Surroundings) (arguments : List String) : Exit :=
  match Invocation.ofArguments? arguments with
  | none => ⟨2, "", usageText⟩
  | some (.help topic) => .success "" topic.text
  | some .version => .success "" versionText
  | some (.run verbose task) => runTask surroundings (logFilter verbose surroundings.lookup) task

end Command

end TableClient
