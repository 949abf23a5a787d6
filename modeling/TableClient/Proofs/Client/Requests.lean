import TableClient.Proofs.Client.Session
import TableClient.Proofs.Properties.Fields

/-!
# What an Operation Sends

The requests of a session, told operation by operation.

An operation is accepted if all its rows become values and its selector, where
it has one, is balanced. If it is accepted, it sends one request, and nothing
otherwise. `contribution` says so without looking at what answers: the request
has the address of the table, the key and the properties of the configuration,
in which the selector is that of the operation if it has one, and all rows in
their order.

`requests_perform` shows that this is what carrying out an operation sends,
whatever the handler answers. Since an operation's contribution mentions no
other operation and no answer, a session sends the contributions one after the
other, and neither failures nor refusals change what comes later.

## Main definitions

* `Operation.table`, `Operation.rows`, `Operation.formula?`,
  `Operation.action`: What an operation is about.
* `Operation.Accepted`: An operation that sends something.
* `Operation.request`, `Operation.contribution`: What it sends.
* `Operation.Course`: Everything an operation can do.

## Theorems

* `mapM_toJson_of_isOk`, `mapM_toJson_error`: Rows become values all or none.
* `course`: An operation does one of the things it can do.
* `requests_perform`: What carrying out an operation sends.
* `requests_session`: What a session sends.
-/

namespace TableClient

open Client (Action)

namespace Operation

/-- The table an operation is about. -/
def table : Operation → String
  | .add table _ => table
  | .delete table _ => table
  | .update table _ => table
  | .readByKeys table _ => table
  | .readAll table => table
  | .readSelected table _ => table

/-- The rows or keys an operation is given. -/
def rows : Operation → List Row
  | .add _ rows => rows
  | .delete _ rows => rows
  | .update _ rows => rows
  | .readByKeys _ keys => keys
  | .readAll _ => []
  | .readSelected _ _ => []

/-- The formula an operation selects rows with, if it does. -/
def formula? : Operation → Option String
  | .readSelected _ selector => some selector.formula
  | _ => none

/-- What an operation asks the service to do. -/
def action : Operation → Action
  | .add _ _ => .add
  | .delete _ _ => .delete
  | .update _ _ => .edit
  | .readByKeys _ _ => .find
  | .readAll _ => .find
  | .readSelected _ _ => .find

/-- All rows of an operation become values, and its selector is balanced. -/
def Accepted (op : Operation) : Prop :=
  (∀ row ∈ op.rows, row.toJson.isOk = true) ∧ ∀ formula ∈ op.formula?, Formula.Balanced formula

instance (op : Operation) : Decidable op.Accepted :=
  inferInstanceAs (Decidable (_ ∧ _))

/-- The values of the rows that become values, in their order. -/
def values (op : Operation) : List Json :=
  op.rows.filterMap fun row => row.toJson.toOption

/-- The properties that an operation is carried out with: those of the
    configuration, with the selector of the operation if it has one. -/
def properties (config : Config) (op : Operation) : Properties :=
  { config.properties with selector := op.formula?.or config.properties.selector }

/-- The request an operation sends if it is accepted. -/
def request (config : Config) (op : Operation) : Request where
  url := Client.endpoint config op.table
  key := config.accessKey
  body := .obj
    [("Action", .str op.action.name), ("Properties", (op.properties config).toJson),
      ("Rows", .arr op.values)]

/-- What an operation sends. -/
def contribution (config : Config) (op : Operation) : List Request :=
  if op.Accepted then [op.request config] else []

/-- Rows that all become values become these values, in their order. -/
theorem mapM_toJson_of_isOk {rows : List Row} (h : ∀ row ∈ rows, row.toJson.isOk = true) :
    rows.mapM Row.toJson = .ok (rows.filterMap fun row => row.toJson.toOption) := by
  induction rows with
  | nil => rfl
  | cons row rest ih =>
      rcases List.forall_mem_cons.1 h with ⟨hrow, hrest⟩
      cases hvalue : row.toJson with
      | error fault => rw [hvalue] at hrow; cases hrow
      | ok value =>
          rw [List.mapM_cons, hvalue, ih hrest, List.filterMap_cons, hvalue]
          rfl

/-- If one row becomes no value, there are no values at all. -/
theorem mapM_toJson_error {rows : List Row} (h : ¬ ∀ row ∈ rows, row.toJson.isOk = true) :
    ∃ fault, rows.mapM Row.toJson = .error fault := by
  induction rows with
  | nil => exact absurd (fun row hmem => (List.not_mem_nil hmem).elim) h
  | cons row rest ih =>
      cases hvalue : row.toJson with
      | error fault => exact ⟨fault, by rw [List.mapM_cons, hvalue]; rfl⟩
      | ok value =>
          have hrest : ¬ ∀ row ∈ rest, row.toJson.isOk = true := fun hall =>
            h (List.forall_mem_cons.2 ⟨by rw [hvalue]; rfl, hall⟩)
          rcases ih hrest with ⟨fault, hfault⟩
          exact ⟨fault, by rw [List.mapM_cons, hvalue, hfault]; rfl⟩

/-- Everything an operation can do, whatever the configuration and whatever
    answers. -/
inductive Course (op : Operation) : Prop where
  /-- It sends its rows and its selector in one request. -/
  | sent : op.Accepted →
    (∀ config handler, Client.perform config handler op
      = Client.send config handler op.table op.action { selector := op.formula? } op.values) →
    Course op
  /-- It is stopped by a row that becomes no value. -/
  | stopped (fault : Json.Fault) : (¬ ∀ row ∈ op.rows, row.toJson.isOk = true) →
    (∀ config handler, Client.perform config handler op = ⟨.error (.rows fault), [], []⟩) →
    Course op
  /-- It is refused for its selector. -/
  | refused (selector : String) : (∀ row ∈ op.rows, row.toJson.isOk = true) →
    op.formula? = some selector → ¬ Formula.Balanced selector →
    (∀ config handler, Client.perform config handler op
      = ⟨.error (.unbalancedSelector selector), [], [.rejected op.table selector]⟩) →
    Course op

/-- The course of an operation that has rows and no selector. -/
theorem course_of_sendRows {op : Operation} (hformula : op.formula? = none)
    (hperform : ∀ config handler, Client.perform config handler op
      = Client.sendRows config handler op.table op.action op.rows) : Course op := by
  by_cases hrows : ∀ row ∈ op.rows, row.toJson.isOk = true
  · refine .sent ⟨hrows, fun formula hmem => ?_⟩ fun config handler => ?_
    · rw [hformula] at hmem
      cases hmem
    · rw [hperform, Client.sendRows, mapM_toJson_of_isOk hrows, hformula]
      rfl
  · rcases mapM_toJson_error hrows with ⟨fault, hfault⟩
    refine .stopped fault hrows fun config handler => ?_
    rw [hperform, Client.sendRows, hfault]

/-- The course of an operation depends on nothing but the operation. -/
theorem course (op : Operation) : Course op := by
  cases op with
  | add table rows => exact course_of_sendRows rfl fun _ _ => rfl
  | delete table rows => exact course_of_sendRows rfl fun _ _ => rfl
  | update table rows => exact course_of_sendRows rfl fun _ _ => rfl
  | readByKeys table keys => exact course_of_sendRows rfl fun _ _ => rfl
  | readAll table => exact course_of_sendRows rfl fun _ _ => rfl
  | readSelected table selector =>
      -- Without rows there is none that could become no value.
      have hrows : ∀ row ∈ (readSelected table selector).rows, row.toJson.isOk = true :=
        fun row hmem => (List.not_mem_nil hmem).elim
      by_cases hbalanced : Formula.Balanced selector.formula
      · refine .sent ⟨hrows, fun formula hmem => ?_⟩ fun config handler => if_pos hbalanced
        cases hmem
        exact hbalanced
      · exact .refused selector.formula hrows rfl hbalanced fun config handler => if_neg hbalanced

/-- What carrying out an operation sends, whatever the answer will be. -/
theorem requests_perform (config : Config) (handler : Handler) (op : Operation) :
    (Client.perform config handler op).requests = op.contribution config := by
  unfold contribution
  cases op.course with
  | sent haccepted hperform =>
      rw [hperform, if_pos haccepted]
      rfl
  | stopped fault hrows hperform =>
      rw [hperform, if_neg fun haccepted => hrows haccepted.1]
  | refused selector _ hformula hunbalanced hperform =>
      rw [hperform, if_neg fun haccepted => hunbalanced (haccepted.2 selector hformula)]

/-- The rows of an accepted operation are its values, each in its place. -/
theorem map_toJson_of_accepted {op : Operation} (h : op.Accepted) :
    op.rows.map Row.toJson = op.values.map .ok := by
  rw [values, List.map_filterMap, ← List.filterMap_eq_map]
  refine List.filterMap_congr fun row hmem => ?_
  have hrow := h.1 row hmem
  cases hvalue : row.toJson with
  | error fault => rw [hvalue] at hrow; cases hrow
  | ok value => simp only [Function.comp_apply, hvalue]; rfl

/-- The requests of the operations of a session, each with what it sends. -/
theorem map_requests_session {σ : Type} (config : Config) (service : Service σ) (state : σ)
    (operations : List Operation) :
    (service.session (Client.perform config) state operations).1.map (·.requests)
      = operations.map (·.contribution config) := by
  exact service.map_session (Client.perform config)
    (fun handler op => (requests_perform config handler op).symm) state operations

/-- A session hands the service the contributions of its operations, one after
    the other, and nothing else, whatever the service answers. An operation
    that is not accepted contributes nothing. One that is contributes a single
    request, which carries all its rows as values and, of the properties, those
    that are set. -/
theorem requests_session {σ : Type} (config : Config) (service : Service σ) (state : σ)
    (operations : List Operation) :
    (service.recorded.session (Client.perform config) (state, []) operations).2.2
        = operations.flatMap (·.contribution config) ∧
    (service.session (Client.perform config) state operations).1.map (·.requests)
        = operations.map (·.contribution config) ∧
    ∀ op ∈ operations,
      (¬ op.Accepted → op.contribution config = []) ∧
      (op.Accepted → op.contribution config = [op.request config] ∧
        op.rows.map Row.toJson = op.values.map .ok ∧
        ∀ key, (op.properties config).toJson.member? key
          = (Properties.Field.ofKey? key).bind (op.properties config).value?) := by
  refine ⟨?_, map_requests_session config service state operations,
    fun op _ => ⟨fun h => if_neg h, fun h => ⟨if_pos h, ?_, ?_⟩⟩⟩
  · rw [Service.final_session, List.flatMap_def, map_requests_session, ← List.flatMap_def,
      Service.after_recorded]
    rfl
  · exact map_toJson_of_accepted h
  · exact (op.properties config).member?_toJson

/-- A row without a value keeps the row before it from being sent as well, and
    a failure does not keep the next reading from being sent. -/
theorem requests_session_failures :
    ¬ (add "T" [.json (.str "a"), .entries [(.null, .str "b")]]).Accepted ∧
    (readSelected "T" (.raw "[A] = 1")).Accepted ∧
    (Service.replies.recorded.session
        (Client.perform { Config.new "app" "key" with properties := { locale := some "en" } })
        ([.error (.status 400 "no")], [])
        [readSelected "T" (.raw "[A] = 1"),
          add "T" [.json (.str "a"), .entries [(.null, .str "b")]], readAll "T"]).2.2
      = [⟨"https://api.appsheet.com/api/v2/apps/app/tables/T/Action", "key",
          .obj [("Action", .str "Find"),
            ("Properties", .obj [("Locale", .str "en"), ("Selector", .str "[A] = 1")]),
            ("Rows", .arr [])]⟩,
        ⟨"https://api.appsheet.com/api/v2/apps/app/tables/T/Action", "key",
          .obj [("Action", .str "Find"), ("Properties", .obj [("Locale", .str "en")]),
            ("Rows", .arr [])]⟩] := by
  refine ⟨by decide, by decide, ?_⟩
  rw [(requests_session _ _ _ _).1]
  rfl

end Operation

end TableClient
