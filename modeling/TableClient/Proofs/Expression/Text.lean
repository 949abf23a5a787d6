import TableClient.Command.Basic
import TableClient.Proofs.Expression.RoundTrip
import TableClient.Proofs.Json.ReadBack

/-!
# Expressions as Texts

An expression written as a JSON text and read back from it.

The value written for an expression is made of strings, arrays and objects, so
it is read back from its text if it does not nest too deep, and is refused for
that reason alone if it does. How deep it nests is a matter of the expression:
a negation is one object, a group is an object with an array in it, a query is
an object around its rows, and a query that sorts keys has an array of pairs
instead. `nesting` counts these levels on the expression, and `depth_toJson`
says that it counts right.

What is read from the value is the expression with its rows settled. That the
text has the tag of a query just if the expression is one decides which of the
two readers is asked.

## Main definitions

* `Condition.nesting`, `RowFilter.nesting`, `Query.nesting`,
  `Expression.nesting`: The levels of the value written for an expression.
* `Expression.settled`: What comes back of an expression.

## Theorems

* `textual_toJson`: Expressions are written as strings, arrays and objects.
* `depth_toJson`: The levels are counted right.
* `ofJson_eq_settled`: An expression comes back settled from its value.
* `readExpression_compact`: It does so from its text up to 127 levels, and is
  refused as too deep beyond.
-/

namespace TableClient

namespace Condition

mutual

/-- The levels of the value written for a condition. -/
def nesting : Condition → Nat
  | .literal _ => 0
  | .not operand => nesting operand + 1
  | .group _ first rest => max (nesting first) (nestingAll rest) + 2

/-- The greatest number of levels among some conditions. -/
def nestingAll : List Condition → Nat
  | [] => 0
  | condition :: rest => max (nesting condition) (nestingAll rest)

end

theorem depthItems_map_toJson {conditions : List Condition}
    (h : ∀ condition ∈ conditions, condition.toJson.depth = condition.nesting) :
    Json.depthItems (conditions.map toJson) = nestingAll conditions := by
  induction conditions with
  | nil => rfl
  | cons condition rest ih =>
      rcases List.forall_mem_cons.1 h with ⟨hfirst, hrest⟩
      rw [List.map_cons, Json.depthItems, nestingAll, hfirst, ih hrest]

theorem depth_toJson (condition : Condition) : condition.toJson.depth = condition.nesting := by
  induction condition using Condition.induction with
  | literal text => rw [toJson, Json.depth_str, nesting]
  | not operand ih =>
      rw [toJson, Json.depth, nesting]
      simp only [Json.depthMembers, Json.depth, Nat.max_self, Nat.max_zero, ih]
  | group connective first rest ih =>
      have hall := depthItems_map_toJson ih
      rw [toJson, toJsonAll_eq_map, ← List.map_cons, Json.depth, nesting]
      simp only [Json.depthMembers, Json.depth, Nat.max_self, Nat.max_zero, hall, nestingAll]

theorem textual_toJson (condition : Condition) : Json.Textual condition.toJson := by
  induction condition using Condition.induction with
  | literal text =>
      rw [toJson]
      exact .str text
  | not operand ih =>
      rw [toJson]
      refine .obj (Dictionary.ordered_of_keys ["condition", "type"] rfl (by decide)) ?_
      simp only [List.forall_mem_cons, List.not_mem_nil, false_implies, implies_true, and_true]
      exact ⟨ih, .str "Not"⟩
  | group connective first rest ih =>
      have hall : ∀ item ∈ (first :: rest).map toJson, Json.Textual item := by
        simpa only [List.forall_mem_map] using ih
      rw [toJson, toJsonAll_eq_map, ← List.map_cons]
      refine .obj (Dictionary.ordered_of_keys ["conditions", "type"] rfl (by decide)) ?_
      simp only [List.forall_mem_cons, List.not_mem_nil, false_implies, implies_true, and_true]
      exact ⟨.arr hall, .str connective.tag⟩

/-- No condition is written with the tag of a query. -/
theorem hasTag_toJson (condition : Condition) : Query.hasTag condition.toJson = false := by
  cases condition with
  | literal text => rw [toJson]; rfl
  | not operand => rw [toJson]; rfl
  | group connective first rest =>
      rw [toJson]
      cases connective <;> rfl

end Condition

namespace RowFilter

/-- The levels of the value written for rows. -/
def nesting : RowFilter → Nat
  | .raw _ => 0
  | .condition c => c.nesting

theorem depth_toJson (rows : RowFilter) : rows.toJson.depth = rows.nesting := by
  cases rows with
  | raw text => rfl
  | condition c => exact c.depth_toJson

theorem textual_toJson (rows : RowFilter) : Json.Textual rows.toJson := by
  cases rows with
  | raw text => exact .str text
  | condition c => exact c.textual_toJson

end RowFilter

namespace Query

/-- The levels of the value written for a query. -/
def nesting : Query → Nat
  | .select _ rows _ => rows.nesting + 1
  | .filter _ rows => rows.nesting + 1
  | .orderBy _ [] => 2
  | .orderBy _ (_ :: _) => 3

theorem depth_sortKeys (key : SortKey) (rest : List SortKey) :
    Json.depthItems ((key :: rest).map SortKey.toJson) = 1 := by
  induction rest generalizing key with
  | nil => rfl
  | cons next rest ih =>
      rw [List.map_cons, Json.depthItems, ih next]
      rfl

theorem depth_toJson (query : Query) : query.toJson.depth = query.nesting := by
  rcases query with ⟨column, rows, distinct⟩ | ⟨dataset, rows⟩ | ⟨keys, _ | ⟨key, rest⟩⟩
  · simp only [toJson, Json.depth, Json.depthMembers, rows.depth_toJson, nesting, Nat.max_self,
      Nat.max_zero, Nat.zero_max]
  · simp only [toJson, Json.depth, Json.depthMembers, rows.depth_toJson, nesting, Nat.max_self,
      Nat.max_zero, Nat.zero_max]
  · rfl
  · simp only [toJson, Json.depth, Json.depthMembers, depth_sortKeys, nesting, Nat.max_self,
      Nat.max_zero, Nat.zero_max]

theorem textual_sortKey (key : SortKey) : Json.Textual key.toJson := by
  refine .arr ?_
  simp only [List.forall_mem_cons, List.not_mem_nil, false_implies, implies_true, and_true]
  exact ⟨.str key.column, .str (Formula.flag key.ascending)⟩

theorem textual_toJson (query : Query) : Json.Textual query.toJson := by
  rcases query with ⟨column, rows, distinct⟩ | ⟨dataset, rows⟩ | ⟨keys, order⟩
  · refine .obj (Dictionary.ordered_of_keys
      ["distinctOnly", "fromDatasetColumn", "selectRow", "type"] rfl (by decide)) ?_
    simp only [List.forall_mem_cons, List.not_mem_nil, false_implies, implies_true, and_true]
    exact ⟨.str _, .str _, rows.textual_toJson, .str _⟩
  · refine .obj (Dictionary.ordered_of_keys ["dataset", "selectRow", "type"] rfl (by decide)) ?_
    simp only [List.forall_mem_cons, List.not_mem_nil, false_implies, implies_true, and_true]
    exact ⟨.str _, rows.textual_toJson, .str _⟩
  · have horder : ∀ item ∈ order.map SortKey.toJson, Json.Textual item := by
      simpa only [List.forall_mem_map] using fun key _ => textual_sortKey key
    refine .obj (Dictionary.ordered_of_keys ["keys", "orderBy", "type"] rfl (by decide)) ?_
    simp only [List.forall_mem_cons, List.not_mem_nil, false_implies, implies_true, and_true]
    exact ⟨.str _, .arr horder, .str _⟩

theorem hasTag_toJson (query : Query) : hasTag query.toJson = true := by
  cases query <;> rfl

end Query

namespace Expression

/-- The levels of the value written for an expression. -/
def nesting : Expression → Nat
  | .condition c => c.nesting
  | .query q => q.nesting

/-- What an expression is when it comes back: a condition is the same, a query
    has its rows settled. -/
def settled : Expression → Expression
  | .condition c => .condition c
  | .query q => .query q.settled

theorem depth_toJson (e : Expression) : e.toJson.depth = e.nesting := by
  cases e with
  | condition c => exact c.depth_toJson
  | query q => exact q.depth_toJson

theorem textual_toJson (e : Expression) : Json.Textual e.toJson := by
  cases e with
  | condition c => exact c.textual_toJson
  | query q => exact q.textual_toJson

theorem formula_settled (e : Expression) : e.settled.formula = e.formula := by
  cases e with
  | condition c => rfl
  | query q => exact q.formula_settled

/-- An expression comes back settled from the value written for it, and as an
    expression of the same kind. -/
theorem ofJson_eq_settled (e : Expression) : ofJson e.toJson = .ok e.settled := by
  unfold ofJson
  cases e with
  | condition c =>
      rw [toJson, c.hasTag_toJson, Condition.ofJson_eq_ok_iff.2 c.denotes_toJson]
      rfl
  | query q =>
      rw [toJson, q.hasTag_toJson, q.ofJson_eq_settled]
      rfl

/-- An expression comes back from its text as it comes back from its value if
    it has at most 127 levels, and rendering the text gives its formula. With
    more levels both are refused, with the one error that the text goes too
    deep. -/
theorem readExpression_compact (e : Expression) :
    e.toJson.depth = e.nesting ∧
    (e.toJson.depth ≤ 127 →
      Command.readExpression e.toJson.compact = .ok e.settled ∧
      Command.render (some e.toJson.compact) = .ok e.formula) ∧
    (128 ≤ e.toJson.depth → ∃ place,
      Command.readExpression e.toJson.compact = .error (.json ⟨.tooDeep, some place⟩) ∧
      Command.render (some e.toJson.compact) = .error (.json ⟨.tooDeep, some place⟩) ∧
      (Command.Error.json ⟨.tooDeep, some place⟩).message = "Invalid JSON: "
        ++ ("recursion limit exceeded" ++ " at line " ++ toString place.line
          ++ " column " ++ toString place.column)) := by
  refine ⟨e.depth_toJson, fun hdepth => ?_, fun hdeep => ?_⟩
  · have hread : Command.readExpression e.toJson.compact = .ok e.settled := by
      -- The value is back, and what is read from it is settled.
      rw [Command.readExpression, Json.parse_compact e.textual_toJson hdepth]
      change (ofJson e.toJson).mapError _ = _
      rw [e.ofJson_eq_settled]
      rfl
    refine ⟨hread, ?_⟩
    rw [Command.render, Command.renderText, hread, ← e.formula_settled]
    rfl
  · rcases Json.parse_compact_tooDeep e.textual_toJson hdeep with ⟨place, hplace⟩
    have hread : Command.readExpression e.toJson.compact
        = .error (.json ⟨.tooDeep, some place⟩) := by
      rw [Command.readExpression, hplace]
    refine ⟨place, hread, ?_, rfl⟩
    rw [Command.render, Command.renderText, hread]
    rfl

/-- A fragment full of characters to escape comes back as formula text where
    it stands for rows, and 128 negations around one are one too many. -/
theorem readExpression_compact_limits :
    (query (.select "T[\"]" (.condition (.literal "é\\\n\x01😀")) true)).toJson.depth ≤ 127 ∧
    Command.readExpression
        (query (.select "T[\"]" (.condition (.literal "é\\\n\x01😀")) true)).toJson.compact
      = .ok (.query (.select "T[\"]" (.raw "é\\\n\x01😀") true)) ∧
    128 ≤ (condition (Nat.repeat .not 128 (.literal "x"))).toJson.depth ∧
    ∃ place, Command.readExpression
        (condition (Nat.repeat .not 128 (.literal "x"))).toJson.compact
      = .error (.json ⟨.tooDeep, some place⟩) := by
  have hshallow : (query (.select "T[\"]"
      (.condition (.literal "é\\\n\x01😀")) true)).toJson.depth ≤ 127 := by decide
  have hdeep : 128 ≤ (condition (Nat.repeat .not 128 (.literal "x"))).toJson.depth := by
    decide +kernel
  rcases (readExpression_compact (condition (Nat.repeat .not 128 (.literal "x")))).2.2 hdeep with
    ⟨place, hplace, _⟩
  exact ⟨hshallow, ((readExpression_compact _).2.1 hshallow).1, hdeep, place, hplace⟩

end Expression

end TableClient
