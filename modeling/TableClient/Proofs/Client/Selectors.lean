import TableClient.Proofs.Client.Requests

/-!
# Selectors in Requests

Where the selector of a request comes from, and whether its brackets balance.

There are two ways for a selector into the body of a request. An operation or
a find brings its own, which is checked before anything is sent. The other way
is by the properties of the configuration, over which those of the request are
laid: what stands there is sent with every call that brings none, and nothing
checks it.

The second way is closed for configurations that are built. `new` leaves the
selector unset, `withProperties` drops the one it is given, and a lookup has
no variable for it. `selector_step` says so of one step and `selector_built`
of any number of them, so that `selector_session` can say of every request
what its selector is. It is open when properties are assigned to a
configuration as they are, and `exists_unbalanced_request_iff` tells exactly
what passes through.

## Main definitions

* `Request.selector?`: The selector in the body of a request.
* `Config.Step`, `Config.built`: How configurations are built.
* `Command.Find.formula?`, `Call.formula?`: The formula a call selects with.
* `Call.Selects`: A call that brings a selector.

## Theorems

* `selector?_request`: Where the selector of a request comes from.
* `selector_built`: A configuration that was built has no selector.
* `exists_operation_of_mem`: A request of a call is that of an operation.
* `selector_session`: The selectors of a session, under a configuration that
  was built.
* `exists_unbalanced_request_iff`: When a session sends an unbalanced
  selector.
-/

namespace TableClient

/-- The selector in the body of a request. -/
def Request.selector? (request : Request) : Option Json := do
  let properties ← request.body.member? "Properties"
  properties.member? "Selector"

namespace Config

/-- A step in building a configuration. -/
inductive Step where
  | withProperties (properties : Properties)
  | withBaseUrl (baseUrl : String)
  | ofLookup (lookup : Lookup)

/-- The configuration behind a step. A lookup that fails changes nothing. -/
def step (config : Config) : Step → Config
  | .withProperties properties => config.withProperties properties
  | .withBaseUrl baseUrl => config.withBaseUrl baseUrl
  | .ofLookup lookup =>
    match ofLookup lookup with
    | .ok found => found
    | .error _ => config

/-- The configuration that some steps make of a new one. -/
def built (appId accessKey : String) (steps : List Step) : Config :=
  steps.foldl step (new appId accessKey)

/-- No variable gives a selector. -/
theorem selector_ofLookup {lookup : Lookup} {config : Config} (h : ofLookup lookup = .ok config) :
    config.properties.selector = none := by
  rw [(ofLookup_eq_ok h).2.2.2]

/-- No step brings a selector into a configuration. -/
theorem selector_step {config : Config} (h : config.properties.selector = none) (s : Step) :
    (config.step s).properties.selector = none := by
  cases s with
  | withProperties properties => rfl
  | withBaseUrl baseUrl => exact h
  | ofLookup lookup =>
      simp only [step]
      cases hfound : ofLookup lookup with
      | ok found => exact selector_ofLookup hfound
      | error fault => exact h

/-- A configuration that was built has no selector. -/
theorem selector_built (appId accessKey : String) (steps : List Step) :
    (built appId accessKey steps).properties.selector = none := by
  -- The invariant has to hold of wherever the remaining steps start from.
  have hfold : ∀ config : Config, config.properties.selector = none →
      (steps.foldl step config).properties.selector = none := by
    induction steps with
    | nil => exact fun config h => h
    | cons s rest ih => exact fun config h => ih _ (selector_step h s)
  exact hfold (new appId accessKey) rfl

end Config

namespace Operation

/-- The selector of a request is that of the operation. If the operation has
    none, it is the one of the configuration. -/
theorem selector?_request (config : Config) (op : Operation) :
    (op.request config).selector? = (op.formula?.or config.properties.selector).map .str :=
  (op.properties config).member?_toJson "Selector"

/-- The requests that a session of operations sends are those of its accepted
    operations. -/
theorem mem_requests_session {σ : Type} {config : Config} {service : Service σ} {state : σ}
    {operations : List Operation} {request : Request} :
    request ∈ (service.session (Client.perform config) state operations).1.flatMap (·.requests) ↔
      ∃ op ∈ operations, op.Accepted ∧ op.request config = request := by
  rw [List.flatMap_def, map_requests_session, ← List.flatMap_def, List.mem_flatMap]
  refine exists_congr fun op => and_congr_right fun _ => ?_
  rw [contribution]
  split
  · rename_i haccepted
    rw [List.mem_singleton, eq_comm]
    exact (and_iff_right haccepted).symm
  · rename_i hrefused
    exact iff_of_false List.not_mem_nil fun h => hrefused h.1

/-- The selectors that pass unchecked. A session sends one whose brackets do
    not balance if and only if the configuration holds it and an operation
    that has no selector of its own is accepted. -/
theorem exists_unbalanced_request_iff {σ : Type} (config : Config) (service : Service σ)
    (state : σ) (operations : List Operation) :
    (∃ request ∈ (service.session (Client.perform config) state operations).1.flatMap
        (·.requests), ∃ formula,
        request.selector? = some (.str formula) ∧ ¬ Formula.Balanced formula) ↔
      ∃ formula, config.properties.selector = some formula ∧ ¬ Formula.Balanced formula ∧
        ∃ op ∈ operations, op.formula? = none ∧ op.Accepted := by
  constructor
  · rintro ⟨request, hmem, formula, hselector, hunbalanced⟩
    rcases mem_requests_session.1 hmem with ⟨op, hop, haccepted, rfl⟩
    rw [selector?_request] at hselector
    cases hown : op.formula? with
    | none =>
        rw [hown, Option.none_or] at hselector
        rcases Option.map_eq_some_iff.1 hselector with ⟨kept, hkept, heq⟩
        cases heq
        exact ⟨formula, hkept, hunbalanced, op, hop, hown, haccepted⟩
    | some own =>
        -- What an accepted operation selects with was checked.
        rw [hown] at hselector
        cases hselector
        exact absurd (haccepted.2 formula hown) hunbalanced
  · rintro ⟨formula, hkept, hunbalanced, op, hop, hown, haccepted⟩
    refine ⟨op.request config, mem_requests_session.2 ⟨op, hop, haccepted, rfl⟩, formula, ?_,
      hunbalanced⟩
    rw [selector?_request, hown, hkept]
    rfl

/-- Rows are read under a selector that was assigned to the configuration,
    with a bracket that nothing closes. -/
theorem unbalanced_request_of_assigned :
    ((Service.replies.session
        (Client.perform { Config.new "a" "k" with properties := { selector := some "(" } })
        [.ok (.arr [])] [readAll "T"]).1.flatMap (·.requests)).map Request.selector?
      = [some (.str "(")] ∧
    ¬ Formula.Balanced "(" :=
  ⟨rfl, by decide⟩

end Operation

namespace Command.Find

/-- The formula a find selects with: the text it was given, or that of the
    expression. A condition is asked of the rows of the table. -/
def formula? (f : Find) : Option String :=
  match f.selector, f.query with
  | some text, none => some text
  | none, some text =>
    match readExpression text with
    | .ok (.query q) => some q.formula
    | .ok (.condition c) => some (Formula.call "FILTER" [f.table, c.formula])
    | .error _ => none
  | _, _ => none

/-- The operation of a find selects if something was given to select with, and
    with nothing else than that. -/
theorem formula?_operation {f : Find} {selector : Option Selector}
    (h : f.selector? = .ok selector) :
    (operation f.table selector).formula? = f.formula? ∧
      (selector.isSome ↔ f.selector.isSome ∨ f.query.isSome) := by
  rcases f with ⟨table, _ | text, _ | query⟩
  · cases h
    exact ⟨rfl, by simp⟩
  · simp only [selector?] at h
    cases hread : readExpression query with
    | error fault => rw [hread] at h; cases h
    | ok expression =>
        rw [hread] at h
        cases h
        simp only [formula?, hread]
        cases expression <;> exact ⟨rfl, by simp⟩
  · cases h
    exact ⟨rfl, by simp⟩
  · cases h

end Command.Find

namespace Call

/-- The formula a call selects rows with, if it does. -/
def formula? : Call → Option String
  | .operation op => op.formula?
  | .find f => f.formula?

/-- A call that was given something to select rows with. -/
def Selects : Call → Prop
  | .operation (.readSelected _ _) => True
  | .operation _ => False
  | .find f => f.selector.isSome ∨ f.query.isSome

theorem isSome_formula?_iff (op : Operation) :
    op.formula?.isSome ↔ Selects (.operation op) := by
  cases op <;> simp [Operation.formula?, Selects]

/-- A request of a call is that of an accepted operation, which selects as the
    call does. -/
theorem exists_operation_of_mem {config : Config} {handler : Handler} {call : Call}
    {request : Request} (h : request ∈ (call.perform config handler).requests) :
    ∃ op : Operation, op.Accepted ∧ request = op.request config ∧
      op.formula? = call.formula? ∧ (op.formula?.isSome ↔ call.Selects) := by
  -- A find does what an operation does, so operations are all there is to see.
  have hsent : ∀ op : Operation, request ∈ (Client.perform config handler op).requests →
      op.Accepted ∧ request = op.request config := by
    intro op hmem
    rw [Operation.requests_perform, Operation.contribution] at hmem
    split at hmem
    · rename_i haccepted
      exact ⟨haccepted, List.mem_singleton.1 hmem⟩
    · cases hmem
  cases call with
  | operation op =>
      rcases hsent op h with ⟨haccepted, hrequest⟩
      exact ⟨op, haccepted, hrequest, rfl, isSome_formula?_iff op⟩
  | find f =>
      simp only [perform, Command.Find.perform] at h
      cases hselector : f.selector? with
      | error fault => rw [hselector] at h; cases h
      | ok selector =>
          rw [hselector] at h
          rcases hsent _ h with ⟨haccepted, hrequest⟩
          rcases Command.Find.formula?_operation hselector with ⟨hformula, hsome⟩
          refine ⟨_, haccepted, hrequest, hformula, ?_⟩
          refine Iff.trans ?_ hsome
          cases selector <;> simp [Command.Find.operation, Operation.formula?]

/-- Under a configuration that was built, a request has a selector if and only
    if the call was given something to select with. The selector is then the
    formula of that call, and its brackets balance. -/
theorem selector_session {σ : Type} (appId accessKey : String) (steps : List Config.Step)
    (service : Service σ) (state : σ) (calls : List Call) :
    List.Forall₂
      (fun call outcome => ∀ request ∈ outcome.requests,
        (request.selector?.isSome ↔ call.Selects) ∧
        ∀ value ∈ request.selector?, ∃ formula,
          call.formula? = some formula ∧ value = .str formula ∧ Formula.Balanced formula)
      calls
      (service.session (Call.perform (Config.built appId accessKey steps)) state calls).1 := by
  refine service.forall₂_session _ (fun handler call request hmem => ?_) state calls
  rcases exists_operation_of_mem hmem with ⟨op, haccepted, rfl, hformula, hselects⟩
  rw [Operation.selector?_request, Config.selector_built, Option.or_none]
  refine ⟨by rw [Option.isSome_map]; exact hselects, fun value hvalue => ?_⟩
  rcases Option.map_eq_some_iff.1 hvalue with ⟨formula, hop, rfl⟩
  exact ⟨formula, hformula ▸ hop, rfl, haccepted.2 formula hop⟩

/-- A selector among the properties that a configuration is given reaches
    neither an addition nor a find, which has one of its own. -/
example :
    (Service.replies.session
        (perform (Config.built "a" "k" [.withProperties { selector := some "(" }]))
        [] [.operation (.add "T" []), .find ⟨"T", some "[A]", none⟩]).1.map
          (fun outcome => outcome.requests.map Request.selector?)
      = [[none], [some (.str "[A]")]] :=
  rfl

end Call

end TableClient
