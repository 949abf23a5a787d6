import TableClient.Proofs.Expression.Reading

/-!
# Reading Back What Was Written

Expressions that go through JSON and come back.

The value that is written for a condition denotes it, so both passes of the
reader succeed. The induction is over the tree, with the operands of a group
taken together as one list, since the reader takes them so.

A query comes back with its fields unchanged but for one case. Rows that are a
lone fragment are written as a string, and a string in that place means
formula text used as it stands. `RowFilter.settled` says what such rows become,
and nothing else does become something else. The two have the same formula, so
the selector of a query never changes on the way.

## Main definitions

* `RowFilter.settled`, `Query.settled`: What comes back of rows and queries.
* `Query.rows?`: The rows of a query, if it has any.

## Theorems

* `denotes_toJson`: Conditions are written as values that denote them, rows and
  queries as values that denote them settled.
* `ofJson_eq_settled`: Queries come back settled.
* `settled_eq_iff`: Only a lone fragment is changed.
* `formula_settled`: The formula is not.
* `ofJson_toJson`: Reading undoes writing.
-/

namespace TableClient

namespace Condition

theorem toJsonAll_eq_map (conditions : List Condition) :
    toJsonAll conditions = conditions.map toJson := by
  induction conditions with
  | nil => rfl
  | cons condition rest ih => rw [toJsonAll, ih, List.map_cons]

/-- What is written for a condition denotes it. -/
theorem denotes_toJson (condition : Condition) : Denotes condition.toJson condition := by
  induction condition using Condition.induction with
  | literal text =>
      rw [toJson]
      exact .literal text
  | not operand ih =>
      rw [toJson]
      exact .not ⟨rfl, rfl⟩ ih
  | group connective first rest ih =>
      -- The operands are read as one list, the first among them.
      rw [toJson, toJsonAll_eq_map, ← List.map_cons]
      have hoperands : List.Forall₂ Denotes ((first :: rest).map toJson) (first :: rest) := by
        rw [List.forall₂_map_left_iff, List.forall₂_same]
        exact ih
      exact .group ⟨rfl, rfl⟩ hoperands

/-- Only a fragment is written as a string. -/
theorem toJson_eq_str {condition : Condition} {text : String} (h : condition.toJson = .str text) :
    condition = .literal text := by
  cases condition with
  | literal text' =>
      rw [toJson, Json.str.injEq] at h
      rw [h]
  | not operand =>
      rw [toJson] at h
      cases h
  | group connective first rest =>
      rw [toJson] at h
      cases h

end Condition

namespace RowFilter

/-- What rows are when they come back: a lone fragment has become formula
    text, everything else is as it was. -/
def settled : RowFilter → RowFilter
  | .condition (.literal text) => .raw text
  | rows => rows

theorem formula_settled (rows : RowFilter) : rows.settled.formula = rows.formula := by
  rcases rows with text | c
  · rfl
  · cases c with
    | literal text => rw [settled, formula, formula, Condition.formula_literal]
    | not operand => rfl
    | group connective first rest => rfl

theorem settled_eq_iff (rows : RowFilter) :
    rows.settled = rows ↔ ∀ text, rows ≠ .condition (.literal text) := by
  rcases rows with text | c
  · exact ⟨fun _ _ h => (nomatch h), fun _ => rfl⟩
  · cases c with
    | literal text => exact ⟨fun h => (nomatch h), fun h => absurd rfl (h text)⟩
    | not operand => exact ⟨fun _ _ h => (nomatch h), fun _ => rfl⟩
    | group connective first rest => exact ⟨fun _ _ h => (nomatch h), fun _ => rfl⟩

/-- What is written for rows denotes them settled. -/
theorem denotes_toJson (rows : RowFilter) : Denotes rows.toJson rows.settled := by
  rcases rows with text | c
  · exact .raw text
  · -- Only a fragment is written as a string, which denotes raw text.
    by_cases hliteral : ∃ text, c = .literal text
    · rcases hliteral with ⟨text, rfl⟩
      rw [toJson, Condition.toJson]
      exact .raw text
    · have hstr : ∀ text, c.toJson ≠ .str text :=
        fun text h => hliteral ⟨text, Condition.toJson_eq_str h⟩
      rw [(settled_eq_iff (.condition c)).2 fun text h => hliteral ⟨text, by cases h; rfl⟩]
      exact .condition hstr c.denotes_toJson

end RowFilter

namespace Query

/-- What a query is when it comes back: the same with its rows settled. -/
def settled : Query → Query
  | .select column rows distinct => .select column rows.settled distinct
  | .filter dataset rows => .filter dataset rows.settled
  | .orderBy keys order => .orderBy keys order

/-- The rows that a query is about; a query that sorts keys has none. -/
def rows? : Query → Option RowFilter
  | .select _ rows _ => some rows
  | .filter _ rows => some rows
  | .orderBy _ _ => none

/-- What is written for a query denotes it settled. Each field is found in the
    member that it was written to. -/
theorem denotes_toJson (query : Query) : Denotes query.toJson query.settled := by
  cases query with
  | select column rows distinct =>
      exact .select rfl rfl rfl rows.denotes_toJson rfl (.text distinct)
  | filter dataset rows => exact .filter rfl rfl rfl rows.denotes_toJson
  | orderBy keys order =>
      have hpairs : List.Forall₂ SortKey.Denotes (order.map SortKey.toJson) order := by
        rw [List.forall₂_map_left_iff, List.forall₂_same]
        exact fun key _ => .pair key.column (.text key.ascending)
      exact .orderBy rfl rfl rfl hpairs

/-- A query comes back with its rows settled. -/
theorem ofJson_eq_settled (query : Query) : ofJson query.toJson = .ok query.settled :=
  ofJson_eq_ok_iff.2 query.denotes_toJson

theorem formula_settled (query : Query) : query.settled.formula = query.formula := by
  cases query with
  | select column rows distinct => rw [settled, formula, formula, rows.formula_settled]
  | filter dataset rows => rw [settled, formula, formula, rows.formula_settled]
  | orderBy keys order => rfl

/-- A query is changed just if its rows are a lone fragment. -/
theorem settled_eq_iff (query : Query) :
    query.settled = query ↔ ∀ text, query.rows? ≠ some (.condition (.literal text)) := by
  cases query with
  | select column rows distinct =>
      simp only [settled, rows?, select.injEq, true_and, and_true, ne_eq, Option.some.injEq]
      exact rows.settled_eq_iff
  | filter dataset rows =>
      simp only [settled, rows?, filter.injEq, true_and, ne_eq, Option.some.injEq]
      exact rows.settled_eq_iff
  | orderBy keys order => exact ⟨fun _ _ h => (nomatch h), fun _ => rfl⟩

end Query

/-- Reading undoes writing. A condition comes back as it was, groups of one
    operand included. A query comes back with its rows settled, which is the
    query itself just if the rows are no lone fragment, and it has the formula
    that it had. -/
theorem ofJson_toJson :
    (∀ condition : Condition, Condition.ofJson condition.toJson = .ok condition) ∧
    ∀ query : Query, Query.ofJson query.toJson = .ok query.settled ∧
      (Query.ofJson query.toJson = .ok query ↔
        ∀ text, query.rows? ≠ some (.condition (.literal text))) ∧
      query.settled.formula = query.formula := by
  refine ⟨fun condition => Condition.ofJson_eq_ok_iff.2 condition.denotes_toJson, ?_⟩
  intro query
  refine ⟨query.ofJson_eq_settled, ?_, query.formula_settled⟩
  rw [query.ofJson_eq_settled, Except.ok.injEq]
  exact query.settled_eq_iff

end TableClient
