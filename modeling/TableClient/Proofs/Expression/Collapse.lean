import TableClient.Proofs.Expression.Parts
import TableClient.Proofs.Formula.Separation

/-!
# What a Formula Says of Its Condition

How much of a condition can be read back from its formula.

A group of one operand has the operand's own formula, so a formula cannot show
such groups. `collapse` removes them at every level and nothing else, and the
formula stays what it was.

Nothing more is lost if the fragments of the condition are `Plain`: each is an
argument, so that the commas the compiler writes can be told from those of the
fragments, and none starts like a call that the compiler writes. A fragment
that does could have been a negation or a group just as well.

The two restrictions meet in `Legible`, the collapsed conditions with plain
fragments. The formula of a legible condition is itself an argument, so the
induction goes through the operands of a group after `arguments_inj` has told
them apart.

## Main definitions

* `Condition.collapse`: A condition without groups of one operand.
* `Condition.literals`: The fragments of a condition, in order.
* `Plain`: A fragment that cannot be taken for something else.
* `Condition.Legible`: A collapsed condition with plain fragments.

## Theorems

* `formula_collapse`: Collapsing keeps the formula.
* `argument_formula_of_literals`: Conditions made of arguments have arguments
  for their formulas.
* `argument_formula`: The formula of a legible condition is an argument.
* `formula_legible_inj`: A legible condition is known from its formula.
* `legible_collapse`: A condition with plain fragments collapses to a legible
  one.
* `collapse_eq_of_formula_eq`: The formula keeps all of a condition but the
  groups of one operand.
-/

namespace TableClient

open Formula

/-- The texts that the formula of a negation or of a group can start with. -/
def callStarts : List String :=
  ["NOT(", "AND(", "OR("]

/-- A fragment that closes what it opens, shelters its commas and does not
    start like the formula of a negation or of a group. -/
structure Plain (text : String) : Prop extends Argument text where
  notCall : ∀ start ∈ callStarts, ¬ start.toList <+: text.toList

instance (text : String) : Decidable (Plain text) :=
  decidable_of_iff (Balanced text ∧ Sheltered text ∧
    ∀ start ∈ callStarts, ¬ start.toList <+: text.toList)
    ⟨fun h => ⟨⟨h.1, h.2.1⟩, h.2.2⟩, fun h => ⟨h.balanced, h.sheltered, h.notCall⟩⟩

theorem plain_ne_call {text function : String} {args : List String} (h : Plain text)
    (hstart : function ++ "(" ∈ callStarts) : text ≠ call function args := by
  intro heq
  refine h.notCall _ hstart ⟨(arguments args).toList ++ [')'], ?_⟩
  rw [heq, call]
  simp only [String.toList_append, List.append_assoc]
  rfl

namespace Condition

mutual

/-- A condition with every group of one operand replaced by that operand. -/
def collapse : Condition → Condition
  | .literal text => .literal text
  | .not operand => .not (collapse operand)
  | .group _ first [] => collapse first
  | .group connective first (second :: rest) =>
    .group connective (collapse first) (collapse second :: collapseAll rest)

/-- Several conditions, each without groups of one operand. -/
def collapseAll : List Condition → List Condition
  | [] => []
  | condition :: rest => collapse condition :: collapseAll rest

end

/-- The fragments of a condition, in the order in which the formula has
    them. -/
def literals (condition : Condition) : List String :=
  condition.parts.map Part.text

theorem collapseAll_eq_map (conditions : List Condition) :
    collapseAll conditions = conditions.map collapse := by
  induction conditions with
  | nil => rfl
  | cons condition rest ih => rw [collapseAll, ih, List.map_cons]

theorem collapse_group_singleton (connective : Connective) (first : Condition) :
    (group connective first []).collapse = first.collapse := by
  rw [collapse]

theorem collapse_group_cons (connective : Connective) (first second : Condition)
    (rest : List Condition) :
    (group connective first (second :: rest)).collapse
      = group connective first.collapse ((second :: rest).map collapse) := by
  rw [collapse, collapseAll_eq_map]
  rfl

/-- Collapsing keeps the formula: a group that goes has its operand's own. -/
theorem formula_collapse (condition : Condition) :
    condition.collapse.formula = condition.formula := by
  induction condition using Condition.induction with
  | literal text => rw [collapse]
  | not operand ih => rw [collapse, formula_not, formula_not, ih]
  | group connective first rest ih =>
      rcases rest with _ | ⟨second, rest⟩
      · rw [collapse_group_singleton, formula_group_singleton]
        exact ih first List.mem_cons_self
      · rw [collapse_group_cons, List.map_cons, formula_group_cons, formula_group_cons]
        have hmap : ((first :: second :: rest).map collapse).map formula
            = (first :: second :: rest).map formula := by
          rw [List.map_map]
          exact List.map_congr_left ih
        rw [← hmap]
        rfl

/-- The conditions that a formula shows in full: no group of one operand, and
    plain fragments only. -/
inductive Legible : Condition → Prop where
  | literal {text : String} : Plain text → Legible (.literal text)
  | not {operand : Condition} : Legible operand → Legible (.not operand)
  | group (connective : Connective) {first second : Condition} {rest : List Condition} :
    (∀ operand ∈ first :: second :: rest, Legible operand) →
      Legible (.group connective first (second :: rest))

theorem literals_not (operand : Condition) : (not operand).literals = operand.literals := by
  unfold literals
  rw [parts, List.map_map]
  rfl

/-- The fragments of an operand are fragments of its group. -/
theorem literals_subset_group (connective : Connective) {first operand : Condition}
    {rest : List Condition} (h : operand ∈ first :: rest) :
    operand.literals ⊆ (group connective first rest).literals := by
  intro text htext
  rcases rest with _ | ⟨second, rest⟩
  · rw [List.mem_singleton] at h
    rw [literals, parts_group_singleton, ← h]
    exact htext
  · rcases List.mem_map.1 htext with ⟨part, hpart, rfl⟩
    rw [literals, parts_group_cons, List.map_map]
    exact List.mem_map_of_mem (List.mem_flatten_of_mem (List.mem_map_of_mem h) hpart)

theorem legible_collapse (condition : Condition)
    (h : ∀ text ∈ condition.literals, Plain text) : Legible condition.collapse := by
  induction condition using Condition.induction with
  | literal text =>
      rw [collapse]
      exact .literal (h text (by rw [literals, parts]; exact List.mem_cons_self))
  | not operand ih =>
      rw [literals_not] at h
      rw [collapse]
      exact .not (ih h)
  | group connective first rest ih =>
      have hoperands : ∀ operand ∈ first :: rest, Legible operand.collapse :=
        fun operand hmem => ih operand hmem fun text htext =>
          h text (literals_subset_group connective hmem htext)
      rcases rest with _ | ⟨second, rest⟩
      · -- What is left is the operand, which may have been a group as well.
        rw [collapse_group_singleton]
        exact hoperands first List.mem_cons_self
      · rw [collapse_group_cons]
        refine .group connective ?_
        rw [← List.map_cons, ← List.map_cons, List.forall_mem_map]
        exact hoperands

theorem argument_formula_not {operand : Condition} (h : Balanced operand.formula) :
    Argument (not operand).formula := by
  rw [formula_not]
  refine argument_call (by decide) (by decide) ?_
  rw [List.forall_mem_singleton]
  exact h

theorem argument_formula_group (connective : Connective) {first second : Condition}
    {rest : List Condition}
    (h : ∀ operand ∈ first :: second :: rest, Balanced operand.formula) :
    Argument (group connective first (second :: rest)).formula := by
  rw [formula_group_cons]
  refine argument_call (balanced_function connective) ?_ ?_
  · cases connective <;> decide
  · rw [List.forall_mem_map]
    exact h

/-- The formula of a condition whose fragments are arguments is an argument. A
    group of one operand has the operand's own, and everything else that is
    written is a call, which shelters what is in it. -/
theorem argument_formula_of_literals (condition : Condition)
    (h : ∀ text ∈ condition.literals, Argument text) : Argument condition.formula := by
  induction condition using Condition.induction with
  | literal text =>
      rw [formula_literal]
      exact h text (by rw [literals, parts]; exact List.mem_cons_self)
  | not operand ih =>
      rw [literals_not] at h
      exact argument_formula_not (ih h).balanced
  | group connective first rest ih =>
      have hoperands : ∀ operand ∈ first :: rest, Argument operand.formula :=
        fun operand hmem => ih operand hmem fun text htext =>
          h text (literals_subset_group connective hmem htext)
      rcases rest with _ | ⟨second, rest⟩
      · rw [formula_group_singleton]
        exact hoperands first List.mem_cons_self
      · -- A call shelters the commas of its operands, which need no more than balance.
        exact argument_formula_group connective fun operand hmem =>
          (hoperands operand hmem).balanced

/-- The formula of a legible condition is an argument. A fragment is one by
    itself, and everything else is a call. -/
theorem argument_formula {condition : Condition} (h : Legible condition) :
    Argument condition.formula := by
  induction h with
  | literal hplain =>
      rw [formula_literal]
      exact hplain.toArgument
  | not _ ih => exact argument_formula_not ih.balanced
  | group connective _ ih =>
      exact argument_formula_group connective fun operand hmem => (ih operand hmem).balanced

theorem function_start (connective : Connective) : connective.function ++ "(" ∈ callStarts := by
  cases connective <;> decide

theorem function_no_paren (connective : Connective) : '(' ∉ connective.function.toList := by
  cases connective <;> decide

theorem function_ne_not (connective : Connective) : "NOT" ≠ connective.function := by
  cases connective <;> decide

theorem function_inj {connective connective' : Connective}
    (h : connective.function = connective'.function) : connective = connective' := by
  cases connective <;> cases connective' <;> first | rfl | exact absurd h (by decide)

/-- Lists of conditions with the same formulas are the same if each condition
    of the first is known from its formula among those of the second. -/
theorem map_formula_inj {first second : List Condition}
    (hinj : ∀ a ∈ first, ∀ b ∈ second, a.formula = b.formula → a = b)
    (h : first.map formula = second.map formula) : first = second := by
  induction first generalizing second with
  | nil => exact (List.map_eq_nil_iff.1 h.symm).symm
  | cons a first ih =>
      rcases second with _ | ⟨b, second⟩
      · cases h
      · rw [List.map_cons, List.map_cons, List.cons.injEq] at h
        rw [hinj a List.mem_cons_self b List.mem_cons_self h.1,
          ih (fun a ha b hb => hinj a (List.mem_cons_of_mem _ ha) b (List.mem_cons_of_mem _ hb)) h.2]

/-- A plain fragment is the formula of no other legible condition, since the
    others are calls. -/
theorem eq_literal_of_formula {text : String} {condition : Condition} (hplain : Plain text)
    (hlegible : Legible condition) (h : condition.formula = text) : condition = literal text := by
  cases hlegible with
  | literal _ => rw [← h, formula_literal]
  | not _ =>
      rw [formula_not] at h
      exact absurd h.symm (plain_ne_call hplain (by decide))
  | group connective _ =>
      rw [formula_group_cons] at h
      exact absurd h.symm (plain_ne_call hplain (function_start connective))

/-- A legible condition is known from its formula. Fragments differ from calls
    by how they start, and calls from each other by their names; the operands
    of a call are told apart as arguments. -/
theorem formula_legible_inj {a b : Condition} (ha : Legible a) (hb : Legible b)
    (h : a.formula = b.formula) : a = b := by
  induction ha generalizing b with
  | literal hplain =>
      rw [formula_literal] at h
      exact (eq_literal_of_formula hplain hb h.symm).symm
  | not hoperand ih =>
      cases hb with
      | literal hplain =>
          rw [formula_literal] at h
          cases eq_literal_of_formula hplain (.not hoperand) h
      | not hoperand' =>
          rw [formula_not, formula_not] at h
          rw [ih hoperand' (call_inj (by decide) (by decide) h).2]
      | group connective _ =>
          rw [formula_not, formula_group_cons] at h
          exact absurd (call_inj (by decide) (function_no_paren connective) h).1
            (function_ne_not connective)
  | group connective hoperands ih =>
      cases hb with
      | literal hplain =>
          rw [formula_literal] at h
          cases eq_literal_of_formula hplain (.group connective hoperands) h
      | not _ =>
          rw [formula_group_cons, formula_not] at h
          exact absurd (call_inj (function_no_paren connective) (by decide) h).1.symm
            (function_ne_not connective)
      | group connective' hoperands' =>
          rw [formula_group_cons, formula_group_cons] at h
          rcases call_inj (function_no_paren _) (function_no_paren _) h with ⟨hname, hargs⟩
          -- The operands are told apart by their formulas, then each is known.
          have hmap := arguments_inj
            (List.forall_mem_map.2 fun operand hmem => argument_formula (hoperands operand hmem))
            (List.forall_mem_map.2 fun operand hmem => argument_formula (hoperands' operand hmem))
            hargs
          have hlist := map_formula_inj
            (fun operand hmem other hother heq => ih operand hmem (hoperands' other hother) heq) hmap
          simp only [List.cons.injEq] at hlist
          rw [function_inj hname, hlist.1, hlist.2.1, hlist.2.2]

/-- The formula keeps all of a condition but the groups of one operand.
    Collapsing these leaves the formula as it is, and conditions with plain
    fragments and one formula collapse to the same condition. -/
theorem collapse_eq_of_formula_eq :
    (∀ condition : Condition, condition.formula = condition.collapse.formula) ∧
    ∀ first second : Condition, (∀ text ∈ first.literals, Plain text) →
      (∀ text ∈ second.literals, Plain text) → first.formula = second.formula →
        first.collapse = second.collapse := by
  refine ⟨fun condition => (formula_collapse condition).symm, ?_⟩
  intro first second hfirst hsecond h
  refine formula_legible_inj (legible_collapse first hfirst) (legible_collapse second hsecond) ?_
  rw [formula_collapse, formula_collapse, h]

/-- Two ways to wrap one group, with a comma inside of a fragment, a fragment
    that starts with a blank and an empty one. -/
theorem collapse_eq_wrapped :
    (∀ text ∈ ["IN([Tag], LIST(1, 2))", " [Price] > 100", ""], Plain text) ∧
      (group .or (group .and (literal "IN([Tag], LIST(1, 2))") [literal " [Price] > 100",
          literal ""]) []).collapse
        = (group .and (group .or (literal "IN([Tag], LIST(1, 2))") [])
            [literal " [Price] > 100", literal ""]).collapse :=
  ⟨by decide, collapse_eq_of_formula_eq.2 _ _ (by decide) (by decide) (by decide)⟩

end Condition

end TableClient
