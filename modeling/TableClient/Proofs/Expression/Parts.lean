import TableClient.Client
import TableClient.Expression.Codec
import TableClient.Proofs.Formula.Composed

/-!
# The Guard on Compiled Selectors

How strong the bracket check is on a formula that was compiled.

The parts of an expression are the texts that its author gives: the fragments
of a condition, the rows, the column and the dataset of a query, its keys and
the columns it sorts by. Everything else in the formula is written by the
compiler, and each call it writes opens one parenthesis around the parts
inside. A group of one operand is no call, so it adds no depth.

`composed_formula` says for conditions, rows and queries that the formula is
composed of the parts. It follows the recursion of the compiler. What the
check says about a formula is then a matter of the parts alone: if all are
balanced it accepts, and if one is in doubt it accepts just if that one fits
the calls around it.

## Main definitions

* `Condition.parts`, `RowFilter.parts`, `Query.parts`, `Expression.parts`: The
  given texts, in the order in which the formula has them.

## Theorems

* `parts_group_cons`: The parts of a call of a connective.
* `composed_formula`: The formula of a condition is composed of its parts, and
  so is the selector of a query.
* `balanced_formula_iff_fits`: The exact strength of the check.
-/

namespace TableClient

open Formula
open Client (result_send_ne_unbalanced)

namespace Condition

mutual

/-- The fragments of a condition, each with the number of calls around it. -/
def parts : Condition → List Part
  | .literal text => [⟨0, text⟩]
  | .not operand => (parts operand).map Part.deeper
  | .group _ first [] => parts first
  | .group _ first (second :: rest) =>
    (parts first ++ (parts second ++ partsAll rest)).map Part.deeper

/-- The fragments of several conditions. -/
def partsAll : List Condition → List Part
  | [] => []
  | condition :: rest => parts condition ++ partsAll rest

end

theorem partsAll_eq_flatten (conditions : List Condition) :
    partsAll conditions = (conditions.map parts).flatten := by
  induction conditions with
  | nil => rfl
  | cons condition rest ih => rw [partsAll, ih, List.map_cons, List.flatten_cons]

theorem parts_group_singleton (connective : Connective) (first : Condition) :
    (group connective first []).parts = first.parts := by
  rw [parts]

theorem parts_group_cons (connective : Connective) (first second : Condition)
    (rest : List Condition) :
    (group connective first (second :: rest)).parts
      = ((first :: second :: rest).map parts).flatten.map Part.deeper := by
  rw [parts, partsAll_eq_flatten]
  rfl

/-- The name of a connective's function has no brackets. -/
theorem balanced_function (connective : Connective) : Balanced connective.function := by
  cases connective <;> decide

/-- The formula of a condition is composed of its fragments. -/
theorem composed_formula (condition : Condition) :
    Composed condition.formula condition.parts := by
  induction condition using Condition.induction with
  | literal text =>
      rw [formula_literal, parts]
      exact .part text
  | not operand ih =>
      rw [formula_not, parts, ← List.append_nil operand.parts]
      exact composed_call (by decide) (.cons ih .nil)
  | group connective first rest ih =>
      rcases rest with _ | ⟨second, rest⟩
      · -- No call is written, so the parts are as deep as they were.
        rw [formula_group_singleton, parts_group_singleton]
        exact ih first List.mem_cons_self
      · rw [formula_group_cons, parts_group_cons]
        refine composed_call (balanced_function connective) ?_
        rw [List.forall₂_map_left_iff, List.forall₂_map_right_iff, List.forall₂_same]
        exact ih

end Condition

/-- The texts given for the rows of a query. -/
def RowFilter.parts : RowFilter → List Part
  | .raw text => [⟨0, text⟩]
  | .condition c => c.parts

theorem RowFilter.composed_formula (rows : RowFilter) : Composed rows.formula rows.parts := by
  cases rows with
  | raw text => exact .part text
  | condition c => exact c.composed_formula

namespace Query

/-- The texts given for a query, each with the number of calls around it. -/
def parts : Query → List Part
  | .select column rows _ => (⟨0, column⟩ :: rows.parts).map Part.deeper
  | .filter dataset rows => (⟨0, dataset⟩ :: rows.parts).map Part.deeper
  | .orderBy keys order => (⟨0, keys⟩ :: order.map fun key => ⟨0, key.column⟩).map Part.deeper

theorem balanced_flag (value : Bool) : Balanced (flag value) := by
  cases value <;> decide

/-- The arguments of sort keys, with a part for each column and none for each
    direction. -/
theorem composed_order (order : List SortKey) :
    List.Forall₂ Composed (order.flatMap SortKey.arguments)
      (order.flatMap fun key => [[⟨0, key.column⟩], []]) := by
  induction order with
  | nil => exact .nil
  | cons key rest ih =>
      exact .cons (.part key.column) (.cons (.fixed (balanced_flag key.ascending)) ih)

theorem flatten_order (order : List SortKey) :
    (order.flatMap fun key => [[(⟨0, key.column⟩ : Part)], []]).flatten
      = order.map fun key => ⟨0, key.column⟩ := by
  induction order with
  | nil => rfl
  | cons key rest ih =>
      rw [List.flatMap_cons, List.flatten_append, ih, List.map_cons]
      rfl

/-- The selector of a query is composed of the texts given for it. -/
theorem composed_formula (query : Query) : Composed query.formula query.parts := by
  cases query with
  | select column rows distinct =>
      have hargs : List.Forall₂ Composed [column, rows.formula, flag distinct]
          [[⟨0, column⟩], rows.parts, []] :=
        .cons (.part column) (.cons rows.composed_formula (.cons (.fixed (balanced_flag _)) .nil))
      have hcall := composed_call (show Balanced "SELECT" by decide) hargs
      simp only [List.flatten_cons, List.flatten_nil, List.append_nil,
        List.singleton_append] at hcall
      exact hcall
  | filter dataset rows =>
      have hargs : List.Forall₂ Composed [dataset, rows.formula] [[⟨0, dataset⟩], rows.parts] :=
        .cons (.part dataset) (.cons rows.composed_formula .nil)
      have hcall := composed_call (show Balanced "FILTER" by decide) hargs
      simp only [List.flatten_cons, List.flatten_nil, List.append_nil,
        List.singleton_append] at hcall
      exact hcall
  | orderBy keys order =>
      have hcall := composed_call (show Balanced "ORDERBY" by decide)
        (.cons (.part keys) (composed_order order))
      rw [List.flatten_cons, flatten_order] at hcall
      exact hcall

end Query

namespace Expression

/-- The texts given for an expression. -/
def parts : Expression → List Part
  | .condition c => c.parts
  | .query q => q.parts

theorem composed_formula (e : Expression) : Composed e.formula e.parts := by
  cases e with
  | condition c => exact c.composed_formula
  | query q => exact q.composed_formula

/-- The exact strength of the check on a compiled formula. If all given texts
    but one are balanced, the formula passes just if reading the remaining one
    with the calls around it open ends with exactly these calls open. If all
    are balanced, the formula passes, and reading the rows that a query
    selects is never refused for the selector. -/
theorem balanced_formula_iff_fits (e : Expression) :
    (∀ front part back, e.parts = front ++ part :: back →
      (∀ other ∈ front ++ back, Balanced other.text) → (Balanced e.formula ↔ part.Fits)) ∧
    ((∀ part ∈ e.parts, Balanced part.text) → Balanced e.formula ∧
      ∀ query, e = .query query → ∀ config handler table selector,
        (Client.perform config handler (.readSelected table (.query query))).result
          ≠ .error (.unbalancedSelector selector)) := by
  refine ⟨fun front part back hsplit hothers => ?_, fun hparts => ?_⟩
  · exact balanced_iff_fits e.composed_formula hsplit hothers
  · have hbalanced : Balanced e.formula := scan_composed e.composed_formula hparts []
    refine ⟨hbalanced, ?_⟩
    rintro query rfl config handler table selector
    rw [Client.perform, Client.sendSelector]
    rw [if_pos (show Balanced (Selector.query query).formula from hbalanced)]
    exact result_send_ne_unbalanced _ _ _ _ _ _ _

/-- A fragment that closes a call and opens another is not balanced, and the
    formula around it passes. -/
theorem balanced_formula_reopened :
    ¬ Balanced ")(" ∧ (∀ text ∈ ["Products[ID]", "[Price] > 100"], Balanced text) ∧
      Balanced (Query.select "Products[ID]" (.condition (.not (.group .and (.literal ")(")
        [.group .or (.literal "[Price] > 100") []]))) true).formula ∧
      ∀ config handler table selector,
        (Client.perform config handler (.readSelected table
          (.query (.orderBy "Products[ID]" [⟨"[Price]", true⟩])))).result
          ≠ .error (.unbalancedSelector selector) := by
  refine ⟨by decide, by decide, ?_, ?_⟩
  · exact ((balanced_formula_iff_fits (.query _)).1 [⟨1, "Products[ID]"⟩] ⟨3, ")("⟩
      [⟨3, "[Price] > 100"⟩] rfl (by decide)).2 (by decide)
  · exact ((balanced_formula_iff_fits (.query _)).2 (by decide)).2 _ rfl

end Expression

end TableClient
