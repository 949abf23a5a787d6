import TableClient.Formula.Call

/-!
# Conditions

Row conditions as trees, and the formulas they stand for.

A condition is a fragment of formula text, the negation of a condition, or a
group of conditions joined by one connective. A group has at least one
operand, which the type says by naming the first one apart from the others.

A group of one operand stands for that operand, so its formula is the
operand's own. Every other group and every negation is a function call.

## Main definitions

* `Connective`: What joins the operands of a group.
* `Condition`: A row condition.
* `Condition.join?`: The group of a list of operands.
* `Condition.formula`: The text of a condition.

## Theorems

* `Connective.ofTag?_eq_some_iff`: Which tag names a connective.
* `induction`: Induction over conditions, operands of a group as a list.
* `formula_literal`, `formula_not`: The texts of fragments and negations.
* `formula_group_singleton`: A group of one operand has the operand's text.
* `formula_group_cons`: A larger group is a call of its connective.
-/

namespace TableClient

/-- What joins the operands of a group. -/
inductive Connective where
  | and
  | or
deriving DecidableEq, Repr

namespace Connective

/-- The tag of a group in JSON. -/
def tag : Connective → String
  | .and => "And"
  | .or => "Or"

/-- The connective a tag names. -/
def ofTag? : String → Option Connective
  | "And" => some .and
  | "Or" => some .or
  | _ => none

/-- The function that a formula calls. -/
def function : Connective → String
  | .and => "AND"
  | .or => "OR"

@[simp]
theorem ofTag?_tag (connective : Connective) : ofTag? connective.tag = some connective := by
  cases connective <;> rfl

theorem ofTag?_eq_some_iff {tag : String} {connective : Connective} :
    ofTag? tag = some connective ↔ tag = connective.tag := by
  refine ⟨fun h => ?_, fun h => h ▸ ofTag?_tag connective⟩
  unfold ofTag? at h
  split at h
  · cases h
    rfl
  · cases h
    rfl
  · cases h

end Connective

/-- A row condition. -/
inductive Condition where
  /-- A fragment of formula text, used as it stands. -/
  | literal (text : String)
  /-- The negation of a condition. -/
  | not (operand : Condition)
  /-- Conditions joined by a connective, at least one of them. -/
  | group (connective : Connective) (first : Condition) (rest : List Condition)
deriving Repr

namespace Condition

/-- The group of a list of operands; an empty list makes none. -/
def join? (connective : Connective) : List Condition → Option Condition
  | [] => none
  | first :: rest => some (.group connective first rest)

/-- The tag of a condition in JSON; a fragment has none. -/
def tag? : Condition → Option String
  | .literal _ => none
  | .not _ => some "Not"
  | .group connective _ _ => some connective.tag

mutual

/-- The formula a condition stands for. -/
def formula : Condition → String
  | .literal text => text
  | .not operand => Formula.call "NOT" [formula operand]
  | .group _ first [] => formula first
  | .group connective first (second :: rest) =>
    Formula.call connective.function (formula first :: formula second :: formulas rest)

/-- The formulas of several conditions. -/
def formulas : List Condition → List String
  | [] => []
  | condition :: rest => formula condition :: formulas rest

end

/-- Induction over conditions. In a group the statement is known for every
    operand, the first one and those in the list. -/
@[elab_as_elim]
theorem induction {motive : Condition → Prop} (literal : ∀ text, motive (.literal text))
    (not : ∀ operand, motive operand → motive (.not operand))
    (group : ∀ connective first rest, (∀ operand ∈ first :: rest, motive operand) →
      motive (.group connective first rest)) : ∀ condition, motive condition
  | .literal text => literal text
  | .not operand => not operand (induction literal not group operand)
  | .group connective first rest =>
    group connective first rest fun operand _ => induction literal not group operand
termination_by condition => sizeOf condition
decreasing_by
  · simp only [Condition.not.sizeOf_spec]
    omega
  · rename_i hmem
    have hlt := List.sizeOf_lt_of_mem hmem
    simp only [List.cons.sizeOf_spec] at hlt
    simp only [Condition.group.sizeOf_spec]
    omega

theorem formulas_eq_map (conditions : List Condition) :
    formulas conditions = conditions.map formula := by
  induction conditions with
  | nil => rfl
  | cons condition rest ih => rw [formulas, ih, List.map_cons]

@[simp]
theorem formula_literal (text : String) : (literal text).formula = text := by
  rw [formula]

theorem formula_not (operand : Condition) :
    (not operand).formula = Formula.call "NOT" [operand.formula] := by
  rw [formula]

@[simp]
theorem formula_group_singleton (connective : Connective) (first : Condition) :
    (group connective first []).formula = first.formula := by
  rw [formula]

theorem formula_group_cons (connective : Connective) (first second : Condition)
    (rest : List Condition) :
    (group connective first (second :: rest)).formula
      = Formula.call connective.function ((first :: second :: rest).map formula) := by
  rw [formula, formulas_eq_map]
  rfl

mutual

/-- Two conditions are the same tree or are not. -/
def decEq : (a b : Condition) → Decidable (a = b)
  | .literal text, .literal text' =>
    if h : text = text' then isTrue (h ▸ rfl) else isFalse fun e => h (by cases e; rfl)
  | .not operand, .not operand' =>
    match decEq operand operand' with
    | isTrue h => isTrue (h ▸ rfl)
    | isFalse h => isFalse fun e => h (by cases e; rfl)
  | .group connective first rest, .group connective' first' rest' =>
    if hc : connective = connective' then
      match decEq first first', decEqList rest rest' with
      | isTrue hf, isTrue hr => isTrue (hc ▸ hf ▸ hr ▸ rfl)
      | isFalse hf, _ => isFalse fun e => hf (by cases e; rfl)
      | _, isFalse hr => isFalse fun e => hr (by cases e; rfl)
    else isFalse fun e => hc (by cases e; rfl)
  | .literal _, .not _ => isFalse nofun
  | .literal _, .group _ _ _ => isFalse nofun
  | .not _, .literal _ => isFalse nofun
  | .not _, .group _ _ _ => isFalse nofun
  | .group _ _ _, .literal _ => isFalse nofun
  | .group _ _ _, .not _ => isFalse nofun

/-- Two lists of conditions are the same or are not. -/
def decEqList : (as bs : List Condition) → Decidable (as = bs)
  | [], [] => isTrue rfl
  | [], _ :: _ => isFalse nofun
  | _ :: _, [] => isFalse nofun
  | a :: as, b :: bs =>
    match decEq a b, decEqList as bs with
    | isTrue h, isTrue hs => isTrue (h ▸ hs ▸ rfl)
    | isFalse h, _ => isFalse fun e => h (by cases e; rfl)
    | _, isFalse hs => isFalse fun e => hs (by cases e; rfl)

end

instance : DecidableEq Condition :=
  decEq

end Condition

end TableClient
