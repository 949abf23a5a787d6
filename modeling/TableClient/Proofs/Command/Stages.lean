import TableClient.Command.Run
import TableClient.Proofs.Client.Selectors
import TableClient.Proofs.Config.Lookup

/-!
# The Stages of Finding

Which of several mistakes a run of the command `find` reports.

Much has to be in order before rows are found. The configuration is looked up,
the selector is made out and its brackets are counted, and only then is there a
request, which may turn out to be one that cannot be built. These are `Stage`s.
`Fails` says what goes wrong at each of them, and it says so of one stage alone:
from the variables and from what the command was given, not from what other
stages make of it. So several stages can fail at once, and the question is whose
error is reported.

The answer is the first. `ready` chains the stages in front of the request, and
a chain fails for the first fault of its parts. Since a find does what the chain
does, and asks a handler for nothing unless the chain succeeds, its error is the
one of the first stage that fails, and no handler gets to see a request as long
as an earlier stage fails. What the run then prints is the text of that error.

The log could get in between, since a selector that is refused is logged. The
last theorem is about runs whose log is off.

## Main definitions

* `LogsNothing`: Variables with which a run logs nothing.
* `Stage`, `preparations`, `stages`: What has to be in order, and when.
* `Fails`: What is wrong at a stage.
* `ready`: A find up to its request.
* `built`: A find up to the address that its request is sent to.
* `Course`: Everything a find can do.

## Theorems

* `logsNothing_off`: A log that is switched off.
* `failsFor_config`, `failsFor_selector`, `failsFor_balanced`,
  `failsFor_address`: What the parts of the chain fail for.
* `failsFor_ready`, `failsFor_built`: The chain fails for the first stage.
* `course`: A find does what the chain does.
* `requests_ne_nil_iff`: When a request is handed over.
* `result_of_firstOf`: A find ends with the error of the first stage.
* `run_reports_first`: What a run reports.
-/

namespace TableClient

namespace Command

/-! ### Without a log -/

/-- A run without the option logs nothing: its filter shows no event of a
    client. -/
def LogsNothing (lookup : Config.Lookup) : Prop :=
  ∀ event : Client.Event, event.isShown (logFilter false lookup) = false

/-- A log that is switched off shows nothing. -/
theorem logsNothing_off {lookup : Config.Lookup} (h : lookup filterVar = some "off") :
    LogsNothing lookup := by
  intro event
  have hfilter : logFilter false lookup = [⟨none, none, none, 0⟩] := by
    rw [logFilter, if_neg Bool.false_ne_true, h]
    rfl
  -- No level is as low as the limit of the only directive.
  rw [hfilter]
  cases event <;> rfl

theorem lines_of_logsNothing {lookup : Config.Lookup} (h : LogsNothing lookup) (time : String)
    (events : List Client.Event) : Log.lines (logFilter false lookup) time events = "" := by
  have hnone : events.filter (Client.Event.isShown (logFilter false lookup)) = [] :=
    List.filter_eq_nil_iff.2 fun event _ => by rw [h event]; exact Bool.false_ne_true
  rw [Log.lines, hnone]
  rfl

namespace Find

/-! ### What can go wrong -/

/-- What has to be in order for a request to be sent. -/
inductive Stage where
  /-- A variable of the configuration. -/
  | variable (name : String)
  /-- The choice between a formula and an expression. -/
  | choice
  /-- The text of the expression. -/
  | text
  /-- The expression that the text spells. -/
  | expression
  /-- The brackets of the selector. -/
  | brackets
  /-- The request. -/
  | request
deriving DecidableEq, Repr

/-- What is wrong at a stage, whatever is wrong at others. -/
inductive Fails (lookup : Config.Lookup) (find : Find) : Stage → Error → Prop where
  | variable {name : String} {error : Config.Error} (h : Config.Faulty lookup name error) :
    Fails lookup find (.variable name) (.config error)
  | choice {formula text : String} (hselector : find.selector = some formula)
    (hquery : find.query = some text) : Fails lookup find .choice .conflictingSelectors
  | text {text : String} {error : Json.Error} (hquery : find.query = some text)
    (h : Json.parse text = .error error) : Fails lookup find .text (.json error)
  | expression {text : String} {value : Json} {error : Expression.Error}
    (hquery : find.query = some text) (hparse : Json.parse text = .ok value)
    (h : Expression.ofJson value = .error error) :
    Fails lookup find .expression (.expression error)
  | brackets {formula : String} (hformula : find.formula? = some formula)
    (h : ¬Formula.Balanced formula) :
    Fails lookup find .brackets (.client (.unbalancedSelector formula))
  /-- No body makes a difference to whether a request can be built. -/
  | request {config : Config} {body : Json} {error : Transport.Error}
    (hconfig : Config.FoundBy lookup config)
    (h : Transport.address ⟨Client.endpoint config find.table, config.accessKey, body⟩
      = .error error) :
    Fails lookup find .request (.client (.transport error))

/-- The stages in front of the request, in their order. -/
def preparations : List Stage :=
  Config.checked.map .variable ++ [.choice, .text, .expression, .brackets]

/-- All stages, in their order. -/
def stages : List Stage :=
  preparations ++ [.request]

/-! ### The chain of the stages -/

/-- A formula with balanced brackets, if there is a formula. -/
def balanced : Option String → Except Error (Option String)
  | none => .ok none
  | some formula =>
    if Formula.Balanced formula then .ok (some formula)
    else .error (.client (.unbalancedSelector formula))

/-- A find up to the request that it hands over. -/
def ready (find : Find) (lookup : Config.Lookup) : Except Error Request := do
  let config ← (Config.ofLookup lookup).mapError .config
  let selector ← find.selector?
  let formula ← balanced (selector.map Selector.formula)
  .ok (Client.request config find.table .find { selector := formula } [])

/-- A find up to the address that its request is sent to. -/
def built (find : Find) (lookup : Config.Lookup) : Except Error Url.Address := do
  let request ← find.ready lookup
  (Transport.address request).mapError fun error => .client (.transport error)

section

variable {lookup : Config.Lookup} {find : Find} {error : Error}

theorem fails_variable_iff {name : String} :
    Fails lookup find (.variable name) error
      ↔ ∃ fault, Config.Faulty lookup name fault ∧ Error.config fault = error := by
  constructor
  · rintro ⟨h⟩
    exact ⟨_, h, rfl⟩
  · rintro ⟨fault, h, rfl⟩
    exact .variable h

theorem fails_choice_iff :
    Fails lookup find .choice error
      ↔ find.selector.isSome ∧ find.query.isSome ∧ error = .conflictingSelectors := by
  simp only [Option.isSome_iff_exists]
  constructor
  · intro h
    cases h with
    | choice hselector hquery => exact ⟨⟨_, hselector⟩, ⟨_, hquery⟩, rfl⟩
  · rintro ⟨⟨formula, hselector⟩, ⟨text, hquery⟩, rfl⟩
    exact .choice hselector hquery

theorem fails_text_iff :
    Fails lookup find .text error
      ↔ ∃ text fault, find.query = some text ∧ Json.parse text = .error fault ∧
          error = .json fault := by
  constructor
  · intro h
    cases h with
    | text hquery h => exact ⟨_, _, hquery, h, rfl⟩
  · rintro ⟨text, fault, hquery, h, rfl⟩
    exact .text hquery h

theorem fails_expression_iff :
    Fails lookup find .expression error
      ↔ ∃ text value fault, find.query = some text ∧ Json.parse text = .ok value ∧
          Expression.ofJson value = .error fault ∧ error = .expression fault := by
  constructor
  · intro h
    cases h with
    | expression hquery hparse h => exact ⟨_, _, _, hquery, hparse, h, rfl⟩
  · rintro ⟨text, value, fault, hquery, hparse, h, rfl⟩
    exact .expression hquery hparse h

theorem fails_brackets_iff :
    Fails lookup find .brackets error
      ↔ ∃ formula, find.formula? = some formula ∧ ¬Formula.Balanced formula ∧
          error = .client (.unbalancedSelector formula) := by
  constructor
  · intro h
    cases h with
    | brackets hformula h => exact ⟨_, hformula, h, rfl⟩
  · rintro ⟨formula, hformula, h, rfl⟩
    exact .brackets hformula h

/-- The variables are looked up in vain for the first one that is at fault. -/
theorem failsFor_config : FailsFor ((Config.ofLookup lookup).mapError Error.config)
    (FirstOf (Fails lookup find) (Config.checked.map .variable)) := by
  intro error
  rw [firstOf_map fun name fault => fails_variable_iff]
  exact failsFor_mapError Config.failsFor_ofLookup Error.config error

/-- A selector cannot be made out if there are two, or if the text that spells it
    cannot be read. -/
theorem failsFor_selector :
    FailsFor find.selector? (FirstOf (Fails lookup find) [.choice, .text, .expression]) := by
  intro error
  rw [firstOf_cons, firstOf_cons, firstOf_singleton]
  simp only [fails_choice_iff, fails_text_iff, fails_expression_iff]
  rcases find with ⟨table, _ | formula, _ | text⟩
  · simp [selector?]
  · -- Only an expression is given, and what is wrong with it is wrong with its text.
    cases hparse : Json.parse text with
    | error fault => simp [selector?, readExpression, hparse, Except.map, eq_comm]
    | ok value =>
        cases hread : Expression.ofJson value with
        | error fault =>
            simp [selector?, readExpression, hparse, hread, Except.map, Except.mapError, eq_comm]
        | ok expression =>
            simp [selector?, readExpression, hparse, hread, Except.map, Except.mapError]
  · simp [selector?]
  · simp [selector?, eq_comm]

/-- A selector that was made out is refused for its brackets. -/
theorem failsFor_balanced {selector : Option Selector} (h : find.selector? = .ok selector) :
    FailsFor (balanced (selector.map Selector.formula))
      (FirstOf (Fails lookup find) [.brackets]) := by
  intro error
  have hformula : find.formula? = selector.map Selector.formula := by
    rw [← (formula?_operation h).1]
    cases selector <;> rfl
  rw [firstOf_singleton, fails_brackets_iff, hformula]
  cases selector with
  | none => simp [balanced]
  | some selector =>
      by_cases hbalanced : Formula.Balanced selector.formula
      · simp [balanced, hbalanced]
      · simp [balanced, hbalanced, eq_comm]

/-- A request is handed over just if no stage in front of it fails, and the
    first one that does is what keeps it back. -/
theorem failsFor_ready :
    FailsFor (find.ready lookup) (FirstOf (Fails lookup find) preparations) := by
  -- The stages are parted as the chain is, with none behind the brackets.
  have hparts : preparations = Config.checked.map Stage.variable
      ++ ([.choice, .text, .expression] ++ ([.brackets] ++ [])) := rfl
  rw [hparts, ready]
  refine failsFor_append failsFor_config fun config _ => ?_
  refine failsFor_append failsFor_selector fun selector hselector => ?_
  exact failsFor_append (failsFor_balanced hselector) fun formula _ => failsFor_ok _

/-- What is handed over is the request for the table under the configuration
    that is looked up. -/
theorem exists_config_of_ready {request : Request} (h : find.ready lookup = .ok request) :
    ∃ config, Config.FoundBy lookup config ∧
      request.url = Client.endpoint config find.table ∧ request.key = config.accessKey := by
  unfold ready at h
  rcases bind_eq_ok.1 h with ⟨config, hconfig, hrest⟩
  rcases bind_eq_ok.1 hrest with ⟨selector, -, hrest⟩
  rcases bind_eq_ok.1 hrest with ⟨formula, -, hrequest⟩
  cases hrequest
  refine ⟨config, Config.foundBy_of_ofLookup ?_, rfl, rfl⟩
  cases hfound : Config.ofLookup lookup with
  | error fault => rw [hfound] at hconfig; cases hconfig
  | ok found => rw [hfound] at hconfig; cases hconfig; rfl

/-- A request that was handed over fails if it cannot be built. -/
theorem failsFor_address {request : Request} (h : find.ready lookup = .ok request) :
    FailsFor ((Transport.address request).mapError fun fault => Error.client (.transport fault))
      (FirstOf (Fails lookup find) [.request]) := by
  rcases exists_config_of_ready h with ⟨config, hconfig, hurl, hkey⟩
  -- The address is judged by where the request goes and by its key.
  have haddress : ∀ body, Transport.address ⟨Client.endpoint config find.table, config.accessKey,
      body⟩ = Transport.address request := by
    intro body
    rw [← hurl, ← hkey]
    rfl
  intro error
  rw [firstOf_singleton]
  constructor
  · intro herror
    cases hbuilt : Transport.address request with
    | ok address => rw [hbuilt] at herror; cases herror
    | error fault =>
        rw [hbuilt] at herror
        cases herror
        exact .request hconfig ((haddress request.body).trans hbuilt)
  · intro hfails
    cases hfails with
    | @request other body fault hother hbuilt =>
        rw [hother.unique hconfig, haddress] at hbuilt
        rw [hbuilt]
        rfl

/-- A find has an address to send its request to just if no stage fails, and
    the first one that does is what keeps it from one. -/
theorem failsFor_built : FailsFor (find.built lookup) (FirstOf (Fails lookup find) stages) := by
  unfold built stages
  exact failsFor_append failsFor_ready fun request hrequest => failsFor_address hrequest

/-! ### What a find does -/

/-- Everything a find can do when the configuration has to be looked up. -/
inductive Course (lookup : Config.Lookup) (find : Find) (handler : Handler) : Prop where
  /-- A stage in front of the request stops it. -/
  | stopped (error : Error) : find.ready lookup = .error error →
    (find.run lookup handler).result = .error error →
    (find.run lookup handler).requests = [] → Course lookup find handler
  /-- It hands one request over, and fails if that does. -/
  | asked (request : Request) : find.ready lookup = .ok request →
    (∀ fault, handler request = .error fault →
      (find.run lookup handler).result = .error (.client (.transport fault))) →
    (find.run lookup handler).requests = [request] → Course lookup find handler

/-- The course of a find whose operation sends something. -/
theorem course_of_send {handler : Handler} {config : Config} {properties : Properties}
    (hready : find.ready lookup = .ok (Client.request config find.table .find properties []))
    (hrun : find.run lookup handler
      = let sent := Client.send config handler find.table .find properties []
        { sent with result := sent.result.mapError .client }) :
    Course lookup find handler := by
  refine .asked _ hready (fun fault hfault => ?_) (by rw [hrun]; rfl)
  rw [hrun]
  simp only [Client.send, hfault, Except.mapError]

/-- A find does what the chain of its stages does. -/
theorem course (lookup : Config.Lookup) (find : Find) (handler : Handler) :
    Course lookup find handler := by
  cases hconfig : Config.ofLookup lookup with
  | error fault =>
      have hrun : find.run lookup handler = ⟨.error (.config fault), [], []⟩ := by
        rw [run, hconfig]
      refine .stopped (.config fault) ?_ (by rw [hrun]) (by rw [hrun])
      rw [ready, hconfig]
      rfl
  | ok config =>
      have hrun : find.run lookup handler = find.perform config handler := by
        rw [run, hconfig]
      cases hselector : find.selector? with
      | error fault =>
          rw [perform, hselector] at hrun
          refine .stopped fault ?_ (by rw [hrun]) (by rw [hrun])
          rw [ready, hconfig, hselector]
          rfl
      | ok selector =>
          rw [perform, hselector] at hrun
          have hready : find.ready lookup
              = (balanced (selector.map Selector.formula)).bind fun formula =>
                  .ok (Client.request config find.table .find { selector := formula } []) := by
            rw [ready, hconfig, hselector]
            rfl
          cases selector with
          | none => exact course_of_send hready hrun
          | some selector =>
              -- From here on there is no more than the brackets to be judged.
              by_cases hbalanced : Formula.Balanced selector.formula
              · simp only [Option.map_some, balanced, if_pos hbalanced] at hready
                simp only [operation, Client.perform, Client.sendSelector, if_pos hbalanced] at hrun
                exact course_of_send hready hrun
              · simp only [Option.map_some, balanced, if_neg hbalanced] at hready
                simp only [operation, Client.perform, Client.sendSelector, if_neg hbalanced] at hrun
                exact .stopped _ hready (by rw [hrun]; rfl) (by rw [hrun])

/-- A handler is asked for something just if no stage in front of the request
    fails. -/
theorem requests_ne_nil_iff (handler : Handler) :
    (find.run lookup handler).requests ≠ [] ↔
      ∀ stage ∈ preparations, ∀ error, ¬Fails lookup find stage error := by
  rw [← forall_not_firstOf_iff, ← exists_eq_ok_iff failsFor_ready]
  cases course lookup find handler with
  | stopped error hready _ hrequests => simp [hready, hrequests]
  | asked request hready _ hrequests => simp [hready, hrequests]

/-- A find over the web ends with the error of the first stage that fails. -/
theorem result_of_firstOf (send : Url.Address → Request → Except Transport.Error Reply)
    (h : FirstOf (Fails lookup find) stages error) :
    (find.run lookup (Transport.overWeb send)).result = .error error := by
  have hbuilt : find.built lookup = .error error := (failsFor_built error).2 h
  unfold built at hbuilt
  cases course lookup find (Transport.overWeb send) with
  | stopped fault hready hresult _ =>
      rw [hready] at hbuilt
      cases hbuilt
      exact hresult
  | asked request hready hfault _ =>
      rw [hready] at hbuilt
      -- The stages in front are passed, so it is the address that is missing.
      have haddress : (Transport.address request).mapError
          (fun fault => Error.client (.transport fault)) = .error error := hbuilt
      cases hrefused : Transport.address request with
      | ok address => rw [hrefused] at haddress; cases haddress
      | error fault =>
          rw [hrefused] at haddress
          cases haddress
          refine hfault fault ?_
          rw [Transport.overWeb, hrefused]
          rfl

end

/-! ### What a run reports -/

/-- The end of a run without a log whose find fails. -/
theorem run_of_result {surroundings : Surroundings} {arguments : List String} {find : Find}
    {pretty : Bool} {error : Error}
    (hargs : Invocation.ofArguments? arguments = some (.run false (.find find pretty)))
    (hlog : LogsNothing surroundings.lookup)
    (hresult : (find.run surroundings.lookup surroundings.handler).result = .error error) :
    Command.run surroundings arguments = ⟨1, "", error.message ++ "\n"⟩ := by
  rw [Command.run, hargs]
  simp only [runTask, hresult, lines_of_logsNothing hlog, Exit.ofResult, Exit.failure,
    String.empty_append]

/-- What a run of the command reports, if its log is off and its requests go to
    the web. It ends with the code of a failure, prints nothing but the text of
    an error on the error stream, and that is the error of the first stage that
    fails, whatever fails behind it. If any stage fails, there is such an error,
    and only one. A request is handed over just if no stage in front of it
    fails, whatever takes the request. -/
theorem run_reports_first {arguments : List String} {find : Find} {pretty : Bool}
    {lookup : Config.Lookup}
    (hargs : Invocation.ofArguments? arguments = some (.run false (.find find pretty)))
    (hlog : LogsNothing lookup) (input : Input) (time : String)
    (send : Url.Address → Request → Except Transport.Error Reply) :
    (∀ error, FirstOf (Fails lookup find) stages error →
      Command.run ⟨lookup, input, time, Transport.overWeb send⟩ arguments
        = ⟨1, "", error.message ++ "\n"⟩) ∧
    ((∃ stage ∈ stages, ∃ error, Fails lookup find stage error) →
      ∃! error, FirstOf (Fails lookup find) stages error) ∧
    ∀ handler, (find.run lookup handler).requests ≠ [] ↔
      ∀ stage ∈ preparations, ∀ error, ¬Fails lookup find stage error := by
  refine ⟨fun error hfirst => ?_, ?_, fun handler => requests_ne_nil_iff handler⟩
  · exact run_of_result hargs hlog (result_of_firstOf send hfirst)
  · rintro ⟨stage, hstage, error, hfails⟩
    have hsome : ∃ error, FirstOf (Fails lookup find) stages error := by
      by_contra hnone
      exact forall_not_firstOf_iff.1 (not_exists.1 hnone) stage hstage error hfails
    rcases hsome with ⟨first, hfirst⟩
    exact ⟨first, hfirst, fun other hother => failsFor_built.unique hother hfirst⟩

/-- A blank key is reported, though the base address is none, there are two
    selectors and one of them is no expression. An unbalanced selector is
    reported, though there is no request that could carry it. -/
theorem run_reports_first_of_many :
    Command.run
        ⟨(Dictionary.get? · [(filterVar, "off"), (Config.appIdVar, "a"), (Config.accessKeyVar, " "),
          (Config.baseUrlVar, "h")]), .terminal, "", Transport.overWeb fun address _ =>
            .error (.unreachable address.text)⟩
        ["find", "T", "-s", "(", "--query=["]
      = ⟨1, "", "Configuration error: environment variable APPSHEET_ACCESS_KEY is invalid: "
          ++ "value is empty\n"⟩ ∧
    Command.run
        ⟨(Dictionary.get? · [(filterVar, "off"), (Config.appIdVar, "a"), (Config.accessKeyVar, "k"),
          (Config.baseUrlVar, "http://[")]), .terminal, "", Transport.overWeb fun address _ =>
            .error (.unreachable address.text)⟩
        ["find", "-ps(", "T"]
      = ⟨1, "", "Request failed: Number of opened and closed parentheses does not match. "
          ++ "Selector: (\n"⟩ := by
  have hkey : FirstOf
      (Fails (Dictionary.get? · [(filterVar, "off"), (Config.appIdVar, "a"),
        (Config.accessKeyVar, " "), (Config.baseUrlVar, "h")]) ⟨"T", some "(", some "["⟩)
      stages (.config (.invalid Config.accessKeyVar .blank)) := (failsFor_built _).1 rfl
  have hbrackets : FirstOf
      (Fails (Dictionary.get? · [(filterVar, "off"), (Config.appIdVar, "a"),
        (Config.accessKeyVar, "k"), (Config.baseUrlVar, "http://[")]) ⟨"T", some "(", none⟩)
      stages (.client (.unbalancedSelector "(")) := (failsFor_built _).1 rfl
  constructor
  · exact (run_reports_first rfl (logsNothing_off rfl) _ _ _).1 _ hkey
  · exact (run_reports_first rfl (logsNothing_off rfl) _ _ _).1 _ hbrackets

end Find

end Command

end TableClient
