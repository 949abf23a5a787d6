import TableClient.Client

/-!
# Conditions with a Hole

What the formula of a condition says about the place in which it stands.

A context is a condition with a hole in it, under any nesting of negations and
groups and at any place among the operands of a group. What the compiler writes
around the hole depends on the context alone: `front` and `back` are these two
texts, and `formula_fill` says that the formula of whatever fills the hole
stands between them. The one thing to watch is a group whose only operand has
the hole, as it writes nothing.

So a condition can be told from another one by its formula and by nothing else,
wherever it is put: the text around it is the same, and it can be taken away.
The same goes for the rows of a query, where formula text may stand for a
condition.

## Main definitions

* `Condition.Context`: A condition with a hole.
* `Condition.Context.fill`: The condition that fills the hole.
* `Condition.Context.front`, `Condition.Context.back`: The texts around the hole.
* `Query.Frame`: A query without its rows.
* `Query.Agree`: Queries that nothing can tell apart.

## Theorems

* `arguments_append_cons`: One argument among others.
* `formula_fill`: A formula stands between the texts around the hole.
* `formula_fill_inj`: Only formulas can be told apart.
* `Query.agree_of_formula_eq`: Queries of one formula are read in the same way.
* `fill_interchangeable`: Conditions of one formula take each other's place.
-/

namespace TableClient

namespace Formula

/-- Arguments in front of another one, each with its comma. -/
def leading : List String → String
  | [] => ""
  | argument :: rest => argument ++ ", " ++ leading rest

/-- Arguments behind another one, each with its comma. -/
def trailing : List String → String
  | [] => ""
  | argument :: rest => ", " ++ argument ++ trailing rest

theorem arguments_cons_eq_trailing (argument : String) (after : List String) :
    arguments (argument :: after) = argument ++ trailing after := by
  induction after generalizing argument with
  | nil => rw [arguments_singleton, trailing, String.append_empty]
  | cons next after ih =>
      rw [arguments_cons, ih, trailing, String.append_assoc, String.append_assoc]

/-- An argument stands between those in front of it and those behind it. -/
theorem arguments_append_cons (before : List String) (argument : String) (after : List String) :
    arguments (before ++ argument :: after) = leading before ++ argument ++ trailing after := by
  induction before with
  | nil =>
      rw [List.nil_append, arguments_cons_eq_trailing, leading, String.empty_append]
  | cons first before ih =>
      -- Something follows the first argument, so it has its comma.
      have hcomma : arguments (first :: (before ++ argument :: after))
          = first ++ ", " ++ arguments (before ++ argument :: after) := by
        cases before <;> rfl
      rw [List.cons_append, hcomma, ih, leading]
      simp only [String.append_assoc]

end Formula

open Formula

namespace Condition

/-- A condition with a hole: the hole itself, a negation around a context, or a
    group with a context among its operands. -/
inductive Context where
  | hole
  | not (inner : Context)
  | group (connective : Connective) (before : List Condition) (inner : Context)
    (after : List Condition)

/-- The group of some operands around one of them. -/
def groupAround (connective : Connective) (before : List Condition) (operand : Condition)
    (after : List Condition) : Condition :=
  match before with
  | [] => .group connective operand after
  | first :: before => .group connective first (before ++ operand :: after)

theorem formula_groupAround_alone (connective : Connective) (operand : Condition) :
    (groupAround connective [] operand []).formula = operand.formula := by
  rw [groupAround, formula_group_singleton]

/-- With other operands beside it, the formula of an operand is an argument. -/
theorem formula_groupAround {before after : List Condition}
    (h : ¬(before.isEmpty && after.isEmpty) = true) (connective : Connective)
    (operand : Condition) :
    (groupAround connective before operand after).formula
      = call connective.function (before.map formula ++ operand.formula :: after.map formula) := by
  rcases before with _ | ⟨first, before⟩
  · rcases after with _ | ⟨second, after⟩
    · exact absurd rfl h
    · rw [groupAround, formula_group_cons]
      rfl
  · rcases hrest : before ++ operand :: after with _ | ⟨second, rest⟩
    · exact absurd hrest (by simp)
    · rw [groupAround, hrest, formula_group_cons, ← hrest]
      simp only [List.map_cons, List.map_append, List.cons_append]

namespace Context

/-- The condition that fills the hole, with the context around it. -/
def fill : Context → Condition → Condition
  | .hole, condition => condition
  | .not inner, condition => .not (inner.fill condition)
  | .group connective before inner after, condition =>
    groupAround connective before (inner.fill condition) after

/-- The text in front of the hole. -/
def front : Context → String
  | .hole => ""
  | .not inner => "NOT(" ++ inner.front
  | .group connective before inner after =>
    if before.isEmpty && after.isEmpty then inner.front
    else connective.function ++ "(" ++ leading (before.map formula) ++ inner.front

/-- The text behind the hole. -/
def back : Context → String
  | .hole => ""
  | .not inner => inner.back ++ ")"
  | .group _ before inner after =>
    if before.isEmpty && after.isEmpty then inner.back
    else inner.back ++ trailing (after.map formula) ++ ")"

/-- The formula of what fills the hole stands between the texts around the
    hole, and these do not depend on it. -/
theorem formula_fill (context : Context) (condition : Condition) :
    (context.fill condition).formula = context.front ++ condition.formula ++ context.back := by
  induction context with
  | hole => rw [fill, front, back, String.empty_append, String.append_empty]
  | not inner ih =>
      rw [fill, formula_not, ih, call, arguments_singleton, front, back]
      simp only [String.append_assoc]
      rfl
  | group connective before inner after ih =>
      rw [fill, front, back]
      by_cases halone : (before.isEmpty && after.isEmpty) = true
      · -- The group has the one operand, so it writes nothing around it.
        obtain ⟨hbefore, hafter⟩ := Bool.and_eq_true_iff.1 halone
        rw [if_pos halone, if_pos halone, List.isEmpty_iff.1 hbefore, List.isEmpty_iff.1 hafter,
          formula_groupAround_alone, ih]
      · rw [if_neg halone, if_neg halone, formula_groupAround halone, call,
          arguments_append_cons, ih]
        simp only [String.append_assoc]

/-- Two conditions can be told apart in a context just if their formulas can. -/
theorem formula_fill_inj (context : Context) (first second : Condition) :
    (context.fill first).formula = (context.fill second).formula ↔
      first.formula = second.formula := by
  rw [formula_fill, formula_fill]
  constructor
  · intro h
    have hchars := congrArg String.toList h
    simp only [String.toList_append] at hchars
    exact String.toList_inj.1 (List.append_cancel_left (List.append_cancel_right hchars))
  · intro h
    rw [h]

/-- A fragment with the formula of a condition does what the condition does. -/
theorem formula_fill_literal (context : Context) (condition : Condition) :
    (context.fill (.literal condition.formula)).formula = (context.fill condition).formula := by
  rw [formula_fill_inj, formula_literal]

end Context

end Condition

namespace Query

/-- A query without its rows. -/
inductive Frame where
  | select (column : String) (distinct : Bool)
  | filter (dataset : String)

/-- The query with the given rows. -/
def Frame.around : Frame → RowFilter → Query
  | .select column distinct, rows => .select column rows distinct
  | .filter dataset, rows => .filter dataset rows

/-- The rows of a query matter to its formula by their own formula only. -/
theorem Frame.formula_around_congr (frame : Frame) {first second : RowFilter}
    (h : first.formula = second.formula) :
    (frame.around first).formula = (frame.around second).formula := by
  cases frame with
  | select column distinct => simp only [around, formula, h]
  | filter dataset => simp only [around, formula, h]

/-- Queries that are compiled to one formula, which passes the check for both or
    for none, and that are read in the same way whatever answers. -/
structure Agree (first second : Query) : Prop where
  formula_eq : first.formula = second.formula
  balanced_iff : Balanced first.formula ↔ Balanced second.formula
  perform_eq : ∀ (config : Config) (handler : Handler) (table : String),
    Client.perform config handler (.readSelected table (.query first))
      = Client.perform config handler (.readSelected table (.query second))

/-- What is done with a query is a matter of its formula. -/
theorem agree_of_formula_eq {first second : Query} (h : first.formula = second.formula) :
    Agree first second where
  formula_eq := h
  balanced_iff := by rw [h]
  perform_eq config handler table := by
    rw [Client.perform, Client.perform, Selector.formula, Selector.formula, h]

end Query

namespace Condition

/-- A fragment with the formula of a condition takes the place of the condition in
    any context. Conditions take each other's place just if they have one formula;
    the check then says the same of what they stand in, and so it is with the rows
    of a query, where formula text may stand for a condition as well. -/
theorem fill_interchangeable :
    (∀ (context : Context) (condition : Condition),
      (context.fill condition).formula
        = (context.fill (.literal condition.formula)).formula) ∧
    (∀ (context : Context) (first second : Condition),
      (context.fill first).formula = (context.fill second).formula ↔
        first.formula = second.formula) ∧
    ∀ first second : Condition, first.formula = second.formula →
      (∀ context : Context,
        Balanced (context.fill first).formula ↔ Balanced (context.fill second).formula) ∧
      (∀ (frame : Query.Frame) (context : Context),
        (frame.around (.condition (context.fill first))).Agree
          (frame.around (.condition (context.fill second)))) ∧
      ∀ frame : Query.Frame,
        (frame.around (.condition first)).Agree (frame.around (.raw second.formula)) := by
  refine ⟨fun context condition => (context.formula_fill_literal condition).symm,
    Context.formula_fill_inj, fun first second h => ⟨fun context => ?_, fun frame context => ?_,
    fun frame => ?_⟩⟩
  · rw [(context.formula_fill_inj first second).2 h]
  · have hrows : (RowFilter.condition (context.fill first)).formula
        = (RowFilter.condition (context.fill second)).formula :=
      (context.formula_fill_inj first second).2 h
    exact Query.agree_of_formula_eq (frame.formula_around_congr hrows)
  · have hrows : (RowFilter.condition first).formula = (RowFilter.raw second.formula).formula := h
    exact Query.agree_of_formula_eq (frame.formula_around_congr hrows)

/-- A negation in a group of its own and a fragment that reads like it, put behind
    a bracket that nothing opens. -/
theorem fill_interchangeable_reopened :
    (group .or (.not (.literal "[A]")) []).formula = (literal "NOT([A])").formula ∧
    (¬Balanced ((Context.group .and [literal ")"] .hole []).fill (literal "NOT([A])")).formula ∧
      ¬Balanced ((Context.group .and [literal ")"] .hole []).fill
        (group .or (.not (.literal "[A]")) [])).formula) ∧
    (Query.select "T[ID]" (.condition (group .or (.not (.literal "[A]")) [])) true).Agree
      (.select "T[ID]" (.raw "NOT([A])") true) := by
  have hformula : (group .or (.not (.literal "[A]")) []).formula
      = (literal "NOT([A])").formula := by decide
  obtain ⟨hbalanced, -, hrows⟩ := fill_interchangeable.2.2 _ _ hformula
  have hrefused : ¬Balanced ((Context.group .and [literal ")"] .hole []).fill
      (literal "NOT([A])")).formula := by decide
  exact ⟨hformula, ⟨hrefused, fun h => hrefused ((hbalanced _).1 h)⟩,
    hrows (.select "T[ID]" true)⟩

end Condition

end TableClient
