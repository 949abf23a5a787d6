import TableClient.Proofs.Client.Session

/-!
# Finds Written out by Hand

A find by an expression and a find by the formula of that expression.

What to look for can be given as an expression in JSON or as the text of a
formula, and the two are treated differently. An expression is read, a
condition becomes a filter of the table, and the client is handed a query. A
text is handed on as it is, whatever it holds. All that the client does with
either is to ask for its formula, so the two ways meet there: with the formula
in place of the expression a find has the same result, sends the same request
and logs the same events, and is refused in the same words if the brackets of
the formula do not balance.

An expression that cannot be read never gets that far. The find then fails as
rendering the expression fails, before the client is asked for anything. The
same holds if both an expression and a text are given, which are not even
looked at.

`perform_written` says of one find that it can be written out by hand, and
`session_written` of all finds in a session.

## Main definitions

* `Command.Find.written`, `Call.written`: A find or call with the formula in
  place of the expression.

## Theorems

* `formula_selectorOf_condition`: What a condition selects with.
* `perform_of_selector`: A find depends on the formula of its selector only.
* `perform_of_error`: A find without a selector that could be used.
* `perform_expression`: What a find by an expression does.
* `session_written`: Finds can be written out by hand throughout a session.
-/

namespace TableClient

namespace Command

theorem readExpression_eq_ok {text : String} {e : Expression}
    (h : (readExpression text).toOption = some e) : readExpression text = .ok e := by
  cases hread : readExpression text with
  | error fault => rw [hread] at h; cases h
  | ok found => rw [hread] at h; cases h; rfl

namespace Find

/-- A find with what it selects with written out as the text of a formula. A
    find that selects with nothing, or that cannot be carried out, is the same
    as before. -/
def written (f : Find) : Find :=
  match f.selector? with
  | .ok (some selector) => ⟨f.table, some selector.formula, none⟩
  | _ => f

theorem formula_selectorOf_condition (table : String) (condition : Condition) :
    (selectorOf table (.condition condition)).formula
      = "FILTER(" ++ table ++ ", " ++ condition.formula ++ ")" := by
  have hname : "FILTER(" = "FILTER" ++ "(" := rfl
  change Formula.call "FILTER" [table, condition.formula] = _
  rw [Formula.call, Formula.arguments_cons, Formula.arguments_singleton, hname]
  simp only [String.append_assoc]

/-- A find does what the find by the formula of its selector does. -/
theorem perform_of_selector {f : Find} {selector : Selector}
    (h : f.selector? = .ok (some selector)) (config : Config) (handler : Handler) :
    f.perform config handler
      = (Find.mk f.table (some selector.formula) none).perform config handler := by
  rw [perform, h]
  rfl

/-- A find whose selector cannot be made out fails and does nothing else. -/
theorem perform_of_error {f : Find} {error : Error} (h : f.selector? = .error error)
    (config : Config) (handler : Handler) :
    f.perform config handler = ⟨.error error, [], []⟩ := by
  rw [perform, h]

/-- The selector of a find by an expression is the one that is read. -/
theorem selector?_expression (table text : String) :
    (Find.mk table none (some text)).selector?
      = (readExpression text).map fun e => some (selectorOf table e) :=
  rfl

theorem perform_written (f : Find) (config : Config) (handler : Handler) :
    f.written.perform config handler = f.perform config handler := by
  unfold written
  cases hselector : f.selector? with
  | error fault => rfl
  | ok selector =>
      cases selector with
      | none => rfl
      | some selector => exact (perform_of_selector hselector config handler).symm

/-- What a find by an expression does. If the text spells a query, it does what
    the find by the rendered text does. If it spells a condition, it does what
    the find by a filter of the table with the rendered text does. If rendering
    the text fails, it fails for the same reason, and nothing is sent and
    nothing logged. A find by both a formula and an expression always fails,
    and nothing is sent or logged either. -/
theorem perform_expression (config : Config) (handler : Handler) (table text : String) :
    (∀ query, readExpression text = .ok (.query query) →
      render (some text) = .ok query.formula ∧
      (Find.mk table none (some text)).perform config handler
        = (Find.mk table (some query.formula) none).perform config handler) ∧
    (∀ condition, readExpression text = .ok (.condition condition) →
      render (some text) = .ok condition.formula ∧
      (Find.mk table none (some text)).perform config handler
        = (Find.mk table (some ("FILTER(" ++ table ++ ", " ++ condition.formula ++ ")"))
            none).perform config handler) ∧
    (∀ error, render (some text) = .error error →
      (Find.mk table none (some text)).perform config handler = ⟨.error error, [], []⟩) ∧
    ∀ formula, (Find.mk table (some formula) (some text)).perform config handler
      = ⟨.error .conflictingSelectors, [], []⟩ := by
  have hrender : render (some text) = (readExpression text).map Expression.formula := rfl
  refine ⟨fun query hread => ?_, fun condition hread => ?_, fun error hfail => ?_,
    fun formula => perform_of_error rfl config handler⟩
  · have hselector : (Find.mk table none (some text)).selector? = .ok (some (.query query)) := by
      rw [selector?_expression, hread]
      rfl
    refine ⟨by rw [hrender, hread]; rfl, ?_⟩
    exact perform_of_selector hselector config handler
  · have hselector : (Find.mk table none (some text)).selector?
        = .ok (some (selectorOf table (.condition condition))) := by
      rw [selector?_expression, hread]
      rfl
    refine ⟨by rw [hrender, hread]; rfl, ?_⟩
    rw [perform_of_selector hselector config handler, formula_selectorOf_condition]
  · -- Rendering fails in no other way than that the text cannot be read.
    cases hread : readExpression text with
    | ok e => rw [hrender, hread] at hfail; cases hfail
    | error fault =>
        rw [hrender, hread] at hfail
        cases hfail
        refine perform_of_error ?_ config handler
        rw [selector?_expression, hread]
        rfl

/-- A query whose rows leave a bracket open does what its text does, which is to
    be refused. A condition is asked of a table whose name closes a bracket. A
    text that ends too early sends nothing. -/
theorem perform_expression_readings :
    (Find.mk "T" none
          (some "\x7b\"type\":\"Filter\",\"dataset\":\"T\",\"selectRow\":\"(\"\x7d")).perform
        (.new "a" "k") (fun _ => .ok (.arr []))
      = (Find.mk "T" (some "FILTER(T, ()") none).perform (.new "a" "k") (fun _ => .ok (.arr [])) ∧
    (Find.mk "a) b" none (some "\"[A] = 1\"")).perform (.new "a" "k") (fun _ => .ok (.arr []))
      = (Find.mk "a) b" (some "FILTER(a) b, [A] = 1)") none).perform (.new "a" "k")
          (fun _ => .ok (.arr [])) ∧
    ∃ error, render (some "[") = .error error ∧
      (Find.mk "T" none (some "[")).perform (.new "a" "k") (fun _ => .ok (.arr []))
        = ⟨.error error, [], []⟩ := by
  have hquery : readExpression "\x7b\"type\":\"Filter\",\"dataset\":\"T\",\"selectRow\":\"(\"\x7d"
      = .ok (.query (.filter "T" (.raw "("))) := readExpression_eq_ok (by decide +kernel)
  have hcondition : readExpression "\"[A] = 1\"" = .ok (.condition (.literal "[A] = 1")) :=
    readExpression_eq_ok (by decide +kernel)
  have hnone : (render (some "[")).toOption = none := by decide +kernel
  refine ⟨?_, ?_, ?_⟩
  · exact ((perform_expression _ _ "T" _).1 _ hquery).2
  · have hperform := ((perform_expression (.new "a" "k") (fun _ => .ok (.arr [])) "a) b" _).2.1 _
      hcondition).2
    rw [Condition.formula_literal] at hperform
    exact hperform
  · cases hrender : render (some "[") with
    | ok formula => rw [hrender] at hnone; cases hnone
    | error error => exact ⟨error, rfl, (perform_expression _ _ "T" "[").2.2.1 error hrender⟩

end Find

end Command

namespace Call

/-- A call with what a find selects with written out. -/
def written : Call → Call
  | .operation op => .operation op
  | .find f => .find f.written

/-- The finds of a session can be written out by hand: all outcomes are the same
    and the service is left in the same state. -/
theorem session_written {σ : Type} (config : Config) (service : Service σ) (state : σ)
    (calls : List Call) :
    service.session (perform config) state (calls.map written)
      = service.session (perform config) state calls := by
  refine service.session_map _ (fun handler call => ?_) state calls
  cases call with
  | operation op => rfl
  | find f => exact f.perform_written config handler

end Call

end TableClient
